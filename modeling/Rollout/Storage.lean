import Rollout.Text.Case

namespace Rollout

inductive StoreMode
  | sqlite
  | postgres
  deriving DecidableEq

namespace StoreMode

def text : StoreMode → String
  | .sqlite => "sqlite"
  | .postgres => "postgres"

structure Unknown where
  word : String
  deriving DecidableEq

def Unknown.message (u : Unknown) : String :=
  "unknown store mode '" ++ u.word ++ "', expected 'sqlite' or 'postgres'"

/-- The letter case does not matter. -/
def read (s : String) : Except Unknown StoreMode :=
  let low := Text.Case.lower s
  if low = "sqlite" then .ok .sqlite
  else if low = "postgres" ∨ low = "postgresql" then .ok .postgres
  else .error ⟨low⟩

end StoreMode

inductive ArtifactStorage
  | file
  | s3
  deriving DecidableEq

namespace ArtifactStorage

def text : ArtifactStorage → String
  | .file => "file"
  | .s3 => "s3"

structure Unknown where
  word : String
  deriving DecidableEq

def Unknown.message (u : Unknown) : String :=
  "unknown artifact storage '" ++ u.word ++ "', expected 'file' or 's3'"

def read (s : String) : Except Unknown ArtifactStorage :=
  let low := Text.Case.lower s
  if low = "file" then .ok .file
  else if low = "s3" then .ok .s3
  else .error ⟨low⟩

end ArtifactStorage

end Rollout
