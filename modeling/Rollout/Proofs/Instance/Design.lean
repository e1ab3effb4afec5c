import Rollout.Instance.Design

namespace Rollout

/-- The address is not in the description itself. -/
def StoreSource.IsSecret (s : StoreSource) : Prop := ∃ name key, s = .secret name key

namespace Plan

variable {p : Plan} {name key : String}

theorem storeSource_eq_secret_iff {mode : StoreMode} {k uri : String} :
    storeSource mode k uri = .secret name key ↔ mode = .postgres ∧ name = Stack.databaseSecret ∧ key = k := by
  cases mode with
  | postgres =>
      simp only [storeSource, StoreSource.secret.injEq, true_and]
      exact and_congr eq_comm eq_comm
  | sqlite => simp [storeSource]

theorem isSecret_storeSource_iff {mode : StoreMode} {k uri : String} :
    (storeSource mode k uri).IsSecret ↔ mode = .postgres := by
  simp [StoreSource.IsSecret, storeSource_eq_secret_iff]

theorem mem_secretVariables_iff :
    name ∈ p.design.secretVariables ↔ p.artifacts = .s3 ∧ name = Stack.objectStoreSecret := by
  cases h : p.artifacts <;> simp [design, artifactDesign, h]

theorem secretVariables_ne_nil_iff : p.design.secretVariables ≠ [] ↔ p.artifacts = .s3 := by
  cases h : p.artifacts <;> simp [design, artifactDesign, h]

theorem environment_ne_nil_iff : p.design.environment ≠ [] ↔ p.artifacts = .s3 := by
  cases h : p.artifacts <;> simp [design, artifactDesign, h]

theorem needsDatabase_iff : p.needsDatabase = true ↔
    ∃ name key, p.design.backend = .secret name key ∨ p.design.registry = .secret name key := by
  simp only [design, storeSource_eq_secret_iff, needsDatabase, Bool.or_eq_true, beq_iff_eq]
  constructor
  · rintro (h | h)
    · exact ⟨_, _, .inl ⟨h, rfl, rfl⟩⟩
    · exact ⟨_, _, .inr ⟨h, rfl, rfl⟩⟩
  · rintro ⟨_, _, ⟨h, _⟩ | ⟨h, _⟩⟩
    · exact .inl h
    · exact .inr h

theorem needsObjectStore_iff : p.needsObjectStore = true ↔ p.design.secretVariables ≠ [] := by
  rw [secretVariables_ne_nil_iff, needsObjectStore, beq_iff_eq]

theorem volume_eq_none_iff :
    p.design.volume = none ↔ p.backend = .postgres ∧ p.registry = .postgres ∧ p.artifacts = .s3 := by
  simp [design, isExternal, and_assoc]

def IsLocal (destination : String) : Prop := "file://".toList <+: destination.toList

theorem isFileUri_iff {s : String} : isFileUri s = true ↔ IsLocal s := List.isPrefixOf_iff_prefix

theorem not_isLocal_bucket (bucket : String) : ¬IsLocal ("s3://" ++ bucket ++ "/artifacts") := by
  have hscheme : "s3://".toList = 's' :: "3://".toList := rfl
  rw [IsLocal, String.toList_append, String.toList_append, hscheme, List.cons_append, List.cons_append]
  exact fun h => absurd (List.cons_prefix_cons.1 h).1 (by decide)

theorem artifactDesign_s3 (h : p.artifacts = .s3) :
    p.artifactDesign =
      ⟨p.serveArtifacts, "s3://" ++ p.objectStore.bucket ++ "/artifacts", [Stack.objectStoreSecret],
        [(Stack.endpointVariable, p.objectStore.endpoint)], []⟩ := by
  rw [artifactDesign, h]

theorem artifactDesign_local (h : p.artifacts = .file) (hlocal : IsLocal p.artifactsDestination) :
    p.artifactDesign =
      ⟨true, p.artifactsDestination, [], [],
        if p.serveArtifacts then [] else [.serveForced p.artifactsDestination]⟩ := by
  rw [artifactDesign, h]
  cases hserve : p.serveArtifacts <;> simp [isFileUri_iff.2 hlocal]

theorem artifactDesign_file (h : p.artifacts = .file) (hlocal : ¬IsLocal p.artifactsDestination) :
    p.artifactDesign = ⟨p.serveArtifacts, p.artifactsDestination, [], [], []⟩ := by
  rw [artifactDesign, h]
  simp [mt isFileUri_iff.1 hlocal]

theorem artifacts_cases (p : Plan) :
    p.artifacts = .s3 ∨ p.artifacts = .file ∧ IsLocal p.artifactsDestination ∨
      p.artifacts = .file ∧ ¬IsLocal p.artifactsDestination := by
  cases h : p.artifacts with
  | s3 => exact .inl rfl
  | file => simpa using Classical.em _

theorem serveArtifacts_of_isLocal (h : IsLocal p.design.artifactsDestination) : p.design.serveArtifacts = true := by
  change IsLocal p.artifactDesign.destination at h
  change p.artifactDesign.serve = true
  rcases p.artifacts_cases with hs3 | ⟨hfile, hlocal⟩ | ⟨hfile, hlocal⟩
  · rw [artifactDesign_s3 hs3] at h
    exact absurd h (not_isLocal_bucket _)
  · rw [artifactDesign_local hfile hlocal]
  · rw [artifactDesign_file hfile hlocal] at h
    exact absurd h hlocal

theorem warnings_ne_nil_iff : p.warnings ≠ [] ↔ p.design.serveArtifacts ≠ p.serveArtifacts := by
  change p.artifactDesign.warnings ≠ [] ↔ p.artifactDesign.serve ≠ p.serveArtifacts
  rcases p.artifacts_cases with hs3 | ⟨hfile, hlocal⟩ | ⟨hfile, hlocal⟩
  · simp [artifactDesign_s3 hs3]
  · rw [artifactDesign_local hfile hlocal]
    cases p.serveArtifacts <;> simp
  · simp [artifactDesign_file hfile hlocal]

theorem defaultRoot_eq_some_iff {root : String} :
    p.design.defaultRoot = some root ↔
      p.design.serveArtifacts = false ∧ root = p.design.artifactsDestination ++ "/runs" := by
  have hroot : p.design.defaultRoot =
      if p.design.serveArtifacts then none else some (p.design.artifactsDestination ++ "/runs") := rfl
  rw [hroot]
  cases p.design.serveArtifacts with
  | true => simp
  | false => simpa using eq_comm

/-- An instance that is what the plan asks for, as far as the operator takes it, and in which nothing contradicts
anything else. -/
structure Coherent (p : Plan) (i : Instance) (warnings : List Warning) : Prop where
  root : ∀ root, i.defaultRoot = some root ↔ i.serveArtifacts = false ∧ root = i.artifactsDestination ++ "/runs"
  served : IsLocal i.artifactsDestination → i.serveArtifacts = true
  warned : warnings ≠ [] ↔ i.serveArtifacts ≠ p.serveArtifacts
  secretVariables : i.secretVariables ≠ [] ↔ p.artifacts = .s3
  environment : i.environment ≠ [] ↔ p.artifacts = .s3
  bucket : p.artifacts = .s3 → i.artifactsDestination = "s3://" ++ p.objectStore.bucket ++ "/artifacts"
  folder : p.artifacts = .file → i.artifactsDestination = p.artifactsDestination
  volume : i.volume = none ↔ i.backend.IsSecret ∧ i.registry.IsSecret ∧ i.secretVariables ≠ []
  backend : p.backend = .postgres → i.backend.IsSecret ∧ ∀ uri, { p with backendUri := uri }.design = i
  registry : p.registry = .postgres → i.registry.IsSecret ∧ ∀ uri, { p with registryUri := uri }.design = i

theorem design_coherent (p : Plan) : p.Coherent p.design p.warnings where
  root _ := defaultRoot_eq_some_iff
  served := serveArtifacts_of_isLocal
  warned := warnings_ne_nil_iff
  secretVariables := secretVariables_ne_nil_iff
  environment := environment_ne_nil_iff
  bucket h := congrArg ArtifactDesign.destination (artifactDesign_s3 h)
  folder h := by
    rcases p.artifacts_cases with hs3 | ⟨hfile, hlocal⟩ | ⟨hfile, hlocal⟩
    · cases h.symm.trans hs3
    · exact congrArg ArtifactDesign.destination (artifactDesign_local hfile hlocal)
    · exact congrArg ArtifactDesign.destination (artifactDesign_file hfile hlocal)
  volume := by
    rw [volume_eq_none_iff, secretVariables_ne_nil_iff]
    exact and_congr isSecret_storeSource_iff.symm (and_congr isSecret_storeSource_iff.symm Iff.rfl)
  backend h := by
    refine ⟨isSecret_storeSource_iff.2 h, fun uri => ?_⟩
    simp [design, artifactDesign, isExternal, storeSource, h]
  registry h := by
    refine ⟨isSecret_storeSource_iff.2 h, fun uri => ?_⟩
    simp [design, artifactDesign, isExternal, storeSource, h]

end Plan

end Rollout
