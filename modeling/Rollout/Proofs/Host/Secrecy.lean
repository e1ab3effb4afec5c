import Rollout.Deployment.OnHost
import Rollout.Proofs.Deployment.Secrecy

namespace Rollout

open Program

namespace Host

abbrev Event : Type := Program.Event interface

/-- Two things asked of a host, with their answers, that differ in nothing but times, random numbers and what
a command reads that creates something from its input. -/
inductive Event.Alike : Event → Event → Prop
  | same (e : Event) : Alike e e
  | created (c : Command) (input input' : Option String) (h : c.args = ["create", "-f", "-"])
      (ran : Command.Ran) : Alike ⟨.run { c with input := input }, ran⟩ ⟨.run { c with input := input' }, ran⟩
  | machine {r r' : Machine.Request} {x : Machine.Answer r} {x' : Machine.Answer r'}
      (h : Machine.Event.Alike ⟨r, x⟩ ⟨r', x'⟩) : Alike ⟨.machine r, x⟩ ⟨.machine r', x'⟩

theorem Event.Alike.answer_eq {r : Request} {x y : Answer r} (h : Event.Alike ⟨r, x⟩ ⟨r, y⟩)
    (hnow : r ≠ .machine .now) (hdrawn : r ≠ .machine .drawId) : x = y := by
  cases h with
  | same => rfl
  | created => rfl
  | machine h => exact h.answer_eq (fun hr => hnow (hr ▸ rfl)) fun hr => hdrawn (hr ▸ rfl)

theorem Event.Alike.ran_eq {c c' : Command} {x y : Command.Ran}
    (h : Event.Alike ⟨.run c, x⟩ ⟨.run c', y⟩) : x = y := by
  cases h with
  | same => rfl
  | created => rfl

/-- A request whose answer has nothing to do with time and chance. -/
def Request.isSteady : Request → Bool
  | .machine .now | .machine .drawId => false
  | _ => true

abbrev Steady {α : Type} (p : Program interface α) : Prop := p.Asks fun r : Request => r.isSteady = true

theorem steady_runLogged (c : Command) : Steady (runLogged c) := by
  refine Asks.bind (.perform rfl) fun ran => ?_
  cases ran.ending with
  | overran => exact Asks.bind (.perform rfl) fun _ => .pure _
  | _ => exact .pure _

theorem steady_executeChecked (operation : String) (c : Command) : Steady (executeChecked operation c).run := by
  have hexecute : Steady (execute operation c).run := by
    refine (steady_runLogged c).bind fun ran => ?_
    split
    · exact .pure _
    · exact .pure _
  refine Asks.bind_except hexecute fun o => ?_
  split
  · exact .pure _
  · trivial

theorem steady_info (text : String) (fields : List (String × String)) : Steady (info text fields).run :=
  .lift (.perform rfl)

theorem steady_occupied (path : String) : Steady (occupied path).run := .lift (.perform rfl)

theorem steady_read (path : String) : Steady (read path).run := Asks.bind (.perform rfl) fun _ => .pure _

theorem steady_write (path text : String) : Steady (write path text).run :=
  Asks.bind (.perform rfl) fun _ => .pure _

end Host

open Cluster Host

theorem Kubectl.steady_holdLimit (k : Kubectl) (c : Call) : Steady (k.holdLimit c) := by
  unfold holdLimit
  split
  · exact .perform rfl
  · exact .pure _

theorem Kubectl.steady_call (k : Kubectl) (c : Call) : Steady (k.call c) :=
  (k.steady_holdLimit c).bind fun _ => (steady_runLogged _).bind fun _ => .pure _

theorem Kubectl.steady_poll (k : Kubectl) (r : Resource) (limit : Duration) : Steady (k.poll r limit) := by
  rw [poll]
  split
  · exact (k.steady_call _).bind fun _ => .pure _
  · refine Asks.bind (.perform rfl) fun ran => ?_
    cases ran.ending with
    | _ => exact .pure _

namespace Kustomize

theorem steady_build (k : Kustomize) (folder : String) : Steady (k.build folder).run :=
  .bind_except (steady_executeChecked ..) fun _ => .pure _

theorem steady_checkFiles (elapsed : Duration) (files : List String) : Steady (checkFiles elapsed files).run := by
  induction files with
  | nil => exact .pure _
  | cons f fs ih =>
      refine .bind_except (steady_occupied f) fun found => ?_
      cases found with
      | false => trivial
      | true => exact .bind_except (steady_info ..) fun _ => ih

theorem steady_generateTls (k : Kustomize) (places : Places) : Steady (k.generateTls places).run := by
  refine .bind_except (steady_info ..) fun _ => .bind_except (steady_executeChecked ..) fun _ => ?_
  exact steady_checkFiles ..

theorem steady_updateParams (path ns image : String) : Steady (updateParams path ns image).run := by
  refine .bind_except (steady_info ..) fun _ => .bind_except (steady_read path) fun content => ?_
  exact steady_write ..

theorem steady_render (k : Kustomize) (p : Plan) (part : Part) : Steady (k.render p part).run := by
  cases part with
  | database => exact k.steady_build _
  | objectStore => exact .bind_except (k.steady_build _) fun _ => .pure _
  | operator =>
      refine .bind_except (steady_updateParams ..) fun _ => .bind_except (k.steady_generateTls _) fun _ => ?_
      exact .bind_except (k.steady_build _) fun _ => .pure _

end Kustomize

theorem ResultsPlace.steady_record (place : ResultsPlace) (key value : String) :
    Steady (place.record key value : Program Host.interface (Except Failure Unit)) := by
  cases place with
  | file path => exact Asks.bind (.perform rfl) fun _ => .pure _
  | log => exact Asks.bind (.perform rfl) fun _ => .pure _

theorem Kubectl.settle_createSecret {s s' : Secret} (h : s.name = s'.name) (limit : Duration)
    (ran : Command.Ran) :
    (settle limit (.createSecret s) ran : Except Failure Unit) = settle limit (.createSecret s') ran := by
  have hoperation : operation (.createSecret s) = operation (.createSecret s') :=
    congrArg ("kubectl create secret " ++ ·) h
  unfold settle
  cases ran.output limit with
  | ok o =>
      have hunderstand (s : Secret) : (understand (.createSecret s) o : Except Failure Unit) =
          (checked (.createSecret s) o).map fun _ => () := rfl
      dsimp only
      rw [hunderstand, hunderstand, checked, checked, hoperation]
  | error f =>
      dsimp only
      rw [hoperation]

def Deployment.SameResult : Except Failure Summary → Except Failure Summary → Prop
  | .ok x, .ok y => x.timeless = y.timeless
  | .error e, .error e' => e = e'
  | _, _ => False

namespace Worlds

variable {σ τ : Type} {W : Worlds Host.interface σ τ} {p : Plan} {c : Credentials}

theorem Respects.steady {α : Type} (h : W.Respects Host.Event.Alike) {q : Program Host.interface α}
    (hq : Steady q) : W.Matches Eq q q := by
  refine .of_asks hq fun r hr => (h.same fun x => .same ⟨r, x⟩).mono fun _ _ hxy => ?_
  exact hxy.answer_eq (by rintro rfl; cases hr) (by rintro rfl; cases hr)

/-- The values of a secret reach the input of a command and nothing else. -/
theorem Respects.createSecret (h : W.Respects Host.Event.Alike) (k : Kubectl) {s s' : Secret}
    (hs : s.Alike s') : W.Matches Eq (k.call (.createSecret s)) (k.call (.createSecret s')) := by
  have hran : W.Matches Eq (Host.run (k.command (.createSecret s))) (Host.run (k.command (.createSecret s'))) :=
    (h (.created (k.command (.createSecret s)) _ _ rfl ⟨.zero, .overran⟩)).mono fun _ _ hxy => hxy.ran_eq
  have hlogged : W.Matches Eq (runLogged (k.command (.createSecret s)))
      (runLogged (k.command (.createSecret s'))) := by
    refine hran.bind_eq fun ran => ?_
    cases ran.ending with
    | overran => exact h.steady (Asks.bind (.perform rfl) fun _ => .pure ran)
    | _ => exact .pure rfl
  refine hlogged.bind_eq fun ran => .pure ?_
  rw [Kubectl.settle_createSecret hs.name]
  rfl

theorem Respects.onHost (h : W.Respects Host.Event.Alike) (p : Plan) (c : Credentials) :
    (W.through p.onHost (p.withCredentials c).onHost).Respects Site.Event.Alike := by
  have hsame {r : Site.Request} (hr : Steady (p.onHost r)) :
      W.Matches (fun y y' => Site.Event.Alike ⟨r, y⟩ ⟨r, y'⟩) (p.onHost r) (p.onHost r) :=
    (h.steady hr).mono fun y y' hy => hy ▸ .same _
  have hmachine {r r' : Machine.Request} {x : Machine.Answer r} {x' : Machine.Answer r'}
      (hx : Machine.Event.Alike ⟨r, x⟩ ⟨r', x'⟩) :
      W.Matches (fun y y' => Site.Event.Alike ⟨.machine r, y⟩ ⟨.machine r', y'⟩)
        (perform (I := Host.interface) (.machine r)) (perform (I := Host.interface) (.machine r')) := by
    refine (h (.machine hx)).mono fun y y' hy => ?_
    cases hy with
    | same => exact .same _
    | machine hy => exact .machine hy
  intro r r' x x' hx
  cases hx with
  | same =>
      match r with
      | .cluster call => exact hsame (p.kubectl.steady_call call)
      | .poll r limit => exact hsame (p.kubectl.steady_poll r limit)
      | .render part => exact hsame (p.kustomize.steady_render p part)
      | .record key value => exact hsame (p.resultsPlace.steady_record key value)
      | .machine r => exact hmachine (.same ⟨r, x⟩)
  | @created s s' hs reply =>
      have hcreated : W.Matches (fun y y' : Reply Unit =>
          Site.Event.Alike ⟨.cluster (.createSecret s), y⟩ ⟨.cluster (.createSecret s'), y'⟩)
          (p.kubectl.call (.createSecret s)) (p.kubectl.call (.createSecret s')) :=
        (h.createSecret p.kubectl hs).mono fun y y' hy => hy ▸ .created hs y
      exact hcreated
  | machine hx => exact hmachine hx

/-- Two runs on a host that differ in credentials start the same commands, and these read the same but where a
secret is created. -/
theorem Respects.deploy (h : W.Respects Host.Event.Alike) (p : Plan) (c : Credentials) :
    (W.recorded Host.Event.Alike).Matches Deployment.SameResult p.deploy.run (p.withCredentials c).deploy.run := by
  refine Matches.interpret (W := W.recorded Host.Event.Alike) ?_
  have hrun := (h.recorded.onHost p c).discreet.runRecorded (p.databaseSecret_alike c) (p.objectStoreSecret_alike c)
  refine hrun.bind fun x y hxy => .pure ?_
  obtain ⟨summary, outcome⟩ := x
  obtain ⟨summary', outcome'⟩ := y
  obtain ⟨hsummary, rfl : outcome = outcome'⟩ := hxy
  cases outcome with
  | ok _ => exact hsummary
  | error e => rfl

end Worlds

end Rollout
