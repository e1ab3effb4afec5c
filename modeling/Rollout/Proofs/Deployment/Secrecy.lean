import Rollout.Proofs.Deployment.Worlds
import Rollout.Proofs.Diagnosis.Inquiries

namespace Rollout

open Program

/-- Two things asked of a machine, with their answers, that differ in nothing but times and random numbers. -/
inductive Machine.Event.Alike : Event Machine.interface → Event Machine.interface → Prop
  | same (e : Event Machine.interface) : Alike e e
  | logged {e e' : LogEntry} (h : e.Alike e') : Alike ⟨.log e, ()⟩ ⟨.log e', ()⟩
  | now (t t' : Instant) : Alike ⟨.now, t⟩ ⟨.now, t'⟩
  | drawn (id id' : RunId) : Alike ⟨.drawId, id⟩ ⟨.drawId, id'⟩

theorem Machine.Event.Alike.answer_eq {r : Machine.Request} {x y : Machine.Answer r}
    (h : Machine.Event.Alike ⟨r, x⟩ ⟨r, y⟩) (hnow : r ≠ .now) (hdrawn : r ≠ .drawId) : x = y := by
  cases h with
  | same => rfl
  | logged => rfl
  | now => exact absurd rfl hnow
  | drawn => exact absurd rfl hdrawn

namespace Site

open Cluster

/-- Two things asked of a site, with their answers, that differ in nothing but times, random numbers and the
values of a secret that is created. -/
inductive Event.Alike : Event → Event → Prop
  | same (e : Event) : Alike e e
  | created {s s' : Secret} (h : s.Alike s') (reply : Reply Unit) :
      Alike ⟨.cluster (.createSecret s), reply⟩ ⟨.cluster (.createSecret s'), reply⟩
  | machine {r r' : Machine.Request} {x : Machine.Answer r} {x' : Machine.Answer r'}
      (h : Machine.Event.Alike ⟨r, x⟩ ⟨r', x'⟩) : Alike ⟨.machine r, x⟩ ⟨.machine r', x'⟩

theorem Event.Alike.answer_eq {r : Request} {x y : Answer r} (h : Event.Alike ⟨r, x⟩ ⟨r, y⟩)
    (hnow : r ≠ .machine .now) (hdrawn : r ≠ .machine .drawId) : x = y := by
  cases h with
  | same => rfl
  | created => rfl
  | machine h => exact h.answer_eq (fun hr => hnow (hr ▸ rfl)) fun hr => hdrawn (hr ▸ rfl)

theorem Event.Alike.reply_eq {s s' : Secret} {x y : Reply Unit}
    (h : Event.Alike ⟨.cluster (.createSecret s), x⟩ ⟨.cluster (.createSecret s'), y⟩) : x = y := by
  cases h with
  | same => rfl
  | created => rfl

end Site

namespace Worlds

open Cluster Deployment Site

variable {σ τ : Type} {W : Worlds Site.interface σ τ}

theorem Respects.same {I : Interface} {W : Worlds I σ τ} {E : Event I → Event I → Prop} (h : W.Respects E)
    {r : I.Request} (hsame : ∀ x, E ⟨r, x⟩ ⟨r, x⟩) :
    W.Matches (fun x y => E ⟨r, x⟩ ⟨r, y⟩) (perform r) (perform r) :=
  fun s t hst => h (hsame (W.left r s).1) s t hst

theorem Respects.discreet (h : W.Respects Site.Event.Alike) : W.Discreet Secret.Alike where
  steady r hr :=
    (h.same fun x => .same ⟨r, x⟩).mono fun x y hxy => hxy.answer_eq (by rintro rfl; cases hr) (by rintro rfl; cases hr)
  created s s' hs := by
    have hcreated : W.Matches Eq (perform (I := Site.interface) (.cluster (.createSecret s)))
        (perform (I := Site.interface) (.cluster (.createSecret s'))) :=
      (h (.created hs ⟨.zero, .ok ()⟩)).mono fun x y hxy => hxy.reply_eq
    exact hcreated.bind_eq fun reply => .pure rfl
  logged e e' he := (h (.machine (.logged he))).mono fun _ _ _ => rfl
  now := (h.same (r := .machine .now) fun x => .same _).mono fun _ _ _ => trivial
  drawn := (h.same (r := .machine .drawId) fun x => .same _).mono fun _ _ _ => trivial
  diagnosed limit w := by
    refine Matches.mono (.of_asks (Diagnosis.inquires_collectAndLog limit w) fun r hr => ?_) fun _ _ _ => trivial
    exact (h.same fun x => .same ⟨r, x⟩).mono fun x y hxy =>
      hxy.answer_eq (by rintro rfl; cases hr) (by rintro rfl; cases hr)

/-- Two runs that differ in credentials ask the same all the way, the values of the created secrets apart, and
come to the same. -/
theorem Respects.runRecorded (h : W.Respects Site.Event.Alike) (p : Plan) (c : Credentials) :
    (W.recorded Site.Event.Alike).Matches SameOutcome (runRecorded p)
      (runRecorded (p.withCredentials c)) :=
  h.recorded.discreet.runRecorded (p.databaseSecret_alike c) (p.objectStoreSecret_alike c)

end Worlds

end Rollout
