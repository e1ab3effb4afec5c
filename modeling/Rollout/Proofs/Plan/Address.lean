import Rollout.Plan
import Rollout.Proofs.Text.Entries
import Rollout.Proofs.Text.Percent

namespace Rollout

open Text

structure Address where
  user : String
  password : String
  place : String

/-- The address that a text is. The place begins after the first `@`, and the password after the first colon
before that. -/
def Address.read? (uri : String) : Option Address := do
  let rest ← "postgresql://".toList.isPrefixOf? uri.toList
  let (account, place) ← cutAt? '@' rest
  let (user, password) ← cutAt? ':' account
  return ⟨← Percent.decodeText? user, ← Percent.decodeText? password, String.ofList place⟩

namespace Database

theorem toList_uri (d : Database) (name : String) : (d.uri name).toList =
    "postgresql://".toList ++ (((Percent.encode d.user).toList ++ ':' :: (Percent.encode d.password).toList) ++
      '@' :: (d.host ++ ":" ++ toString d.port ++ "/" ++ name).toList) := by
  have hcolon : ":".toList = [':'] := rfl
  have hat : "@".toList = ['@'] := rfl
  unfold uri
  simp only [String.toList_append, hcolon, hat, List.append_assoc, List.cons_append, List.nil_append]

theorem read?_uri (d : Database) (name : String) : Address.read? (d.uri name) =
    some ⟨d.user, d.password, d.host ++ ":" ++ toString d.port ++ "/" ++ name⟩ := by
  have hat (s : String) : '@' ∉ (Percent.encode s).toList := Percent.not_mem_encode s (by decide) (by decide)
  have hcolon (s : String) : ':' ∉ (Percent.encode s).toList := Percent.not_mem_encode s (by decide) (by decide)
  have haccount : '@' ∉ (Percent.encode d.user).toList ++ ':' :: (Percent.encode d.password).toList := by
    simp [hat]
  have hscheme (cs : List Char) : "postgresql://".toList.isPrefixOf? ("postgresql://".toList ++ cs) = some cs :=
    List.isPrefixOf?_eq_some_iff_append_eq.2 rfl
  rw [Address.read?, toList_uri, hscheme]
  simp only [Option.bind_eq_bind, Option.bind_some, cutAt?_append haccount, cutAt?_append (hcolon _),
    Percent.decodeText?_encode, String.ofList_toList]
  rfl

/-- User and password can be told from the address of a database, whatever characters they have. -/
theorem uri_tells (d : Database) (name : String) :
    Address.read? (d.uri name) = some ⟨d.user, d.password, d.host ++ ":" ++ toString d.port ++ "/" ++ name⟩ ∧
      ∀ (d' : Database) (name' : String), d'.uri name' = d.uri name → d'.user = d.user ∧ d'.password = d.password := by
  refine ⟨read?_uri d name, fun d' name' huri => ?_⟩
  have hread := read?_uri d' name'
  rw [huri, read?_uri d name] at hread
  obtain ⟨huser, hpassword, -⟩ := Address.mk.inj (Option.some.inj hread)
  exact ⟨huser.symm, hpassword.symm⟩

end Database

end Rollout
