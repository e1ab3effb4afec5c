import Rollout.Instance.Basic
import Rollout.Proofs.Data

namespace Rollout

open Data

/-- A store from the one of its two fields that is there. -/
def StoreSource.ofFields? (key : String) (spec : Data) : Option StoreSource :=
  match spec.field? key, spec.field? (key ++ "From") with
  | some d, none => d.text?.map .uri
  | none, some d => return .secret (← d.textField? "name") (← d.textField? "key")
  | _, _ => none

def Volume.ofData? (d : Data) : Option Volume := do
  let modes ← (← d.field? "accessModes").list? text?
  let requests ← (← d.field? "resources").field? "requests"
  return ⟨modes, ← requests.textField? "storage"⟩

namespace Instance

def secretVariable? (d : Data) : Option String := do (← d.field? "secretRef").textField? "name"

def setting? (d : Data) : Option (String × String) := return (← d.textField? "name", ← d.textField? "value")

/-- The instance that a tree describes. Fields are told by their names and may stand in any order. -/
def ofData? (d : Data) : Option Instance := do
  let metadata ← d.field? "metadata"
  let spec ← d.field? "spec"
  let image ← spec.field? "image"
  return {
    apiVersion := ← d.textField? "apiVersion"
    kind := ← d.textField? "kind"
    name := ← metadata.textField? "name"
    ns := ← metadata.textField? "namespace"
    image := ← image.textField? "image"
    pullPolicy := ← image.textField? "imagePullPolicy"
    backend := ← StoreSource.ofFields? "backendStoreUri" spec
    registry := ← StoreSource.ofFields? "registryStoreUri" spec
    serveArtifacts := ← (← spec.field? "serveArtifacts").flag?
    artifactsDestination := ← spec.textField? "artifactsDestination"
    defaultRoot := ← spec.optional? "defaultArtifactRoot" none fun d => d.text?.map some
    secretVariables := ← spec.optional? "envFrom" [] (list? secretVariable?)
    environment := ← spec.optional? "env" [] (list? setting?)
    volume := ← spec.optional? "storage" none fun d => (Volume.ofData? d).map some }

/-- Each store has one of its two fields, and the fields that may be left out are there if they say something. -/
structure Shape (i : Instance) (spec : Data) : Prop where
  backend : Xor (spec.Has "backendStoreUri") (spec.Has "backendStoreUriFrom")
  registry : Xor (spec.Has "registryStoreUri") (spec.Has "registryStoreUriFrom")
  defaultRoot : spec.Has "defaultArtifactRoot" ↔ i.defaultRoot ≠ none
  secretVariables : spec.Has "envFrom" ↔ i.secretVariables ≠ []
  environment : spec.Has "env" ↔ i.environment ≠ []
  volume : spec.Has "storage" ↔ i.volume ≠ none

variable {i : Instance} {name key : String} {s : StoreSource}

@[simp]
theorem storeField_name_iff : (storeField key s).1 = name ↔
    (∃ uri, s = .uri uri) ∧ key = name ∨ (∃ n k, s = .secret n k) ∧ key ++ "From" = name := by
  cases s <;> simp [storeField]

@[simp]
theorem field?_image (i : Instance) : (fields i.specFields).field? "image" =
    some (.fields [("image", .text i.image), ("imagePullPolicy", .text i.pullPolicy)]) := by
  simp [specFields, optionalFields]

@[simp]
theorem field?_serveArtifacts (i : Instance) :
    (fields i.specFields).field? "serveArtifacts" = some (.flag i.serveArtifacts) := by
  simp [specFields, optionalFields]

@[simp]
theorem field?_artifactsDestination (i : Instance) :
    (fields i.specFields).field? "artifactsDestination" = some (.text i.artifactsDestination) := by
  simp [specFields, optionalFields]

theorem field?_defaultArtifactRoot (i : Instance) :
    (fields i.specFields).field? "defaultArtifactRoot" = i.defaultRoot.map .text := by
  simp [specFields, optionalFields]

theorem field?_envFrom (i : Instance) : (fields i.specFields).field? "envFrom" =
    if i.secretVariables = [] then none
    else some (.items (i.secretVariables.map fun n => .fields [("secretRef", .fields [("name", .text n)])])) := by
  simp [specFields, optionalFields]

theorem field?_env (i : Instance) : (fields i.specFields).field? "env" =
    if i.environment = [] then none
    else some (.items (i.environment.map fun v => .fields [("name", .text v.1), ("value", .text v.2)])) := by
  simp [specFields, optionalFields]

theorem field?_storage (i : Instance) : (fields i.specFields).field? "storage" = i.volume.map volumeTree := by
  simp [specFields, optionalFields]

/-- Of the fields that a store may have, `spec` has the one that this store has. -/
def Stores (key : String) (s : StoreSource) (spec : Data) : Prop :=
  ∀ name, name = key ∨ name = key ++ "From" → spec.field? name = (fields [storeField key s]).field? name

theorem stores_backend (i : Instance) : Stores "backendStoreUri" i.backend (fields i.specFields) := by
  rintro _ (rfl | rfl)
  · simp [specFields, optionalFields]
  · simp [specFields, optionalFields]

theorem stores_registry (i : Instance) : Stores "registryStoreUri" i.registry (fields i.specFields) := by
  rintro _ (rfl | rfl)
  · simp [specFields, optionalFields]
  · simp [specFields, optionalFields]

theorem ne_append_from (key : String) : key ≠ key ++ "From" := by
  intro h
  have hlength := congrArg String.length h
  simp at hlength

theorem Stores.ofFields? {spec : Data} (h : Stores key s spec) : StoreSource.ofFields? key spec = some s := by
  rw [StoreSource.ofFields?, h _ (.inl rfl), h _ (.inr rfl)]
  cases s <;> simp [storeField, textField?, ne_append_from]

theorem Stores.xor_has {spec : Data} (h : Stores key s spec) : Xor (spec.Has key) (spec.Has (key ++ "From")) := by
  rw [Has, Has, h _ (.inl rfl), h _ (.inr rfl)]
  cases s <;> simp [storeField, ne_append_from]

theorem ofData?_volumeTree (v : Volume) : Volume.ofData? (volumeTree v) = some v := by
  have hmodes := list?_map text?_text v.accessModes
  simp [Volume.ofData?, volumeTree, textField?, hmodes]

theorem secretVariable?_fields (n : String) :
    secretVariable? (.fields [("secretRef", .fields [("name", .text n)])]) = some n := rfl

theorem setting?_fields (v : String × String) :
    setting? (.fields [("name", .text v.1), ("value", .text v.2)]) = some v := rfl

theorem shape_specFields (i : Instance) : i.Shape (fields i.specFields) where
  backend := (stores_backend i).xor_has
  registry := (stores_registry i).xor_has
  defaultRoot := by simp [Has, field?_defaultArtifactRoot, Option.isSome_iff_ne_none]
  secretVariables := by simp [Has, field?_envFrom]
  environment := by simp [Has, field?_env]
  volume := by simp [Has, field?_storage, Option.isSome_iff_ne_none]

theorem ofData?_tree (i : Instance) : ofData? i.tree = some i := by
  have hversion : i.tree.textField? "apiVersion" = some i.apiVersion := rfl
  have hkind : i.tree.textField? "kind" = some i.kind := rfl
  obtain ⟨metadata, hmetadata, hname, hns⟩ : ∃ metadata, i.tree.field? "metadata" = some metadata ∧
    metadata.textField? "name" = some i.name ∧ metadata.textField? "namespace" = some i.ns := ⟨_, rfl, rfl, rfl⟩
  obtain ⟨image, himage, hlocation, hpolicy⟩ : ∃ image, (fields i.specFields).field? "image" = some image ∧
    image.textField? "image" = some i.image ∧ image.textField? "imagePullPolicy" = some i.pullPolicy :=
    ⟨_, i.field?_image, rfl, rfl⟩
  have hspec : i.tree.field? "spec" = some (fields i.specFields) := rfl
  have hbackend := (stores_backend i).ofFields?
  have hregistry := (stores_registry i).ofFields?
  have hserve := i.field?_serveArtifacts
  have hdestination : (fields i.specFields).textField? "artifactsDestination" = some i.artifactsDestination := by
    rw [textField?, field?_artifactsDestination, Option.bind_some, text?_text]
  have hroot := optional?_option text?_text i.field?_defaultArtifactRoot
  have hsecrets := optional?_list secretVariable?_fields i.field?_envFrom
  have henvironment := optional?_list setting?_fields i.field?_env
  have hvolume := optional?_option ofData?_volumeTree i.field?_storage
  -- One field after the other: `simp` goes through what follows a field twice.
  rw [ofData?, bind_of_eq_some hmetadata, bind_of_eq_some hspec, bind_of_eq_some himage, bind_of_eq_some hversion,
    bind_of_eq_some hkind, bind_of_eq_some hname, bind_of_eq_some hns, bind_of_eq_some hlocation,
    bind_of_eq_some hpolicy, bind_of_eq_some hbackend, bind_of_eq_some hregistry, bind_of_eq_some hserve,
    bind_of_eq_some (flag?_flag i.serveArtifacts), bind_of_eq_some hdestination, bind_of_eq_some hroot,
    bind_of_eq_some hsecrets, bind_of_eq_some henvironment, bind_of_eq_some hvolume]
  rfl

theorem names_toList_sublist {α : Type} (o : Option α) (write : α → Data) :
    ((o.map fun x => (key, write x)).toList.map Prod.fst).Sublist [key] := by
  cases o <;> simp

theorem names_ite_sublist {p : Prop} [Decidable p] {d : Data} :
    ((if p then [] else [(key, d)]).map Prod.fst).Sublist [key] := by
  by_cases h : p <;> simp [h]

theorem names_specFields_sublist (i : Instance) : (i.specFields.map Prod.fst).Sublist
    ["image", (storeField "backendStoreUri" i.backend).1, (storeField "registryStoreUri" i.registry).1,
      "serveArtifacts", "artifactsDestination", "defaultArtifactRoot", "envFrom", "env", "storage"] := by
  rw [specFields, optionalFields, List.map_append, List.map_append, List.map_append, List.map_append]
  refine List.Sublist.append (.refl _) ?_
  exact (((names_toList_sublist ..).append names_ite_sublist).append names_ite_sublist).append (names_toList_sublist ..)

theorem nodup_names_specFields (i : Instance) : (i.specFields.map Prod.fst).Nodup := by
  refine (names_specFields_sublist i).nodup ?_
  cases i.backend <;> cases i.registry <;> simp [storeField]

theorem unambiguous_storeField (key : String) (s : StoreSource) : (storeField key s).2.Unambiguous := by
  cases s <;> simp [storeField]

theorem unambiguous_optionalFields (i : Instance) : ∀ kv ∈ i.optionalFields, kv.2.Unambiguous := by
  simp only [optionalFields, List.forall_mem_append]
  refine ⟨⟨⟨?_, ?_⟩, ?_⟩, ?_⟩
  · cases i.defaultRoot <;> simp
  · split <;> simp
  · split <;> simp
  · cases i.volume <;> simp [volumeTree]

theorem unambiguous_tree (i : Instance) : i.tree.Unambiguous := by
  have hspec : (fields i.specFields).Unambiguous := by
    refine .fields (nodup_names_specFields i) (List.forall_mem_append.2 ⟨?_, unambiguous_optionalFields i⟩)
    simp [unambiguous_storeField]
  simp [tree, hspec]

/-- The tree says all of the instance and says it once. -/
theorem tree_determines (i : Instance) : i.tree.Unambiguous ∧
    (∃ spec, i.tree.field? "spec" = some spec ∧ i.Shape spec) ∧ ofData? i.tree = some i ∧
      ∀ j : Instance, j.tree = i.tree → j = i := by
  refine ⟨unambiguous_tree i, ⟨_, rfl, shape_specFields i⟩, ofData?_tree i, fun j hj => ?_⟩
  have hread := ofData?_tree j
  rw [hj, ofData?_tree i] at hread
  exact (Option.some.inj hread).symm

end Instance

end Rollout
