import Rollout.Data.Json.Token

namespace Rollout.Data.Json

/-- A list or a record that is still open. What it holds so far stands in reverse. -/
inductive Frame
  | items (done : List Data)
  | fields (done : List (String × Data)) (key : Option String)

/-- What may come next: at `first`, also the end of the innermost frame; at `rest`, a comma or that
end; at `colon`, a colon and no more. -/
inductive Turn
  | first
  | value
  | colon
  | rest

inductive Reading
  | within (turn : Turn) (stack : List Frame)
  | complete (d : Data)

def depthLimit : Nat := 127

def supply (d : Data) : List Frame → Option Reading
  | [] => some (.complete d)
  | .items done :: s => some (.within .rest (.items (d :: done) :: s))
  | .fields done (some key) :: s => some (.within .rest (.fields ((key, d) :: done) none :: s))
  | .fields _ none :: _ => none

def enter (f : Frame) (stack : List Frame) : Option Reading :=
  if stack.length < depthLimit then some (.within .first (f :: stack)) else none

def leave (stack : List Frame) : Token → Option Reading
  | .closeItems => match stack with
    | .items done :: s => supply (.items done.reverse) s
    | _ => none
  | .closeFields => match stack with
    | .fields done none :: s => supply (.fields done.reverse) s
    | _ => none
  | _ => none

def begin (stack : List Frame) (t : Token) : Option Reading :=
  match stack with
  | .fields done none :: s => match t with
    | .atom (.text key) => some (.within .colon (.fields done (some key) :: s))
    | _ => none
  | _ => match t with
    | .atom d => supply d stack
    | .openItems => enter (.items []) stack
    | .openFields => enter (.fields [] none) stack
    | _ => none

def step : Reading → Token → Option Reading
  | .complete _, _ => none
  | .within .first stack, t => (begin stack t).or (leave stack t)
  | .within .value stack, t => begin stack t
  | .within .colon stack, .colon => some (.within .value stack)
  | .within .colon _, _ => none
  | .within .rest stack, .comma => some (.within .value stack)
  | .within .rest stack, t => leave stack t

/-- Reads a whole JSON text, strictly: nothing but white space around one value, and at most
`depthLimit` lists and records inside one another. -/
def read? (s : String) : Option Data := do
  let ts ← tokens? s
  match ← ts.foldlM step (.within .value []) with
  | .complete d => some d
  | .within .. => none

end Rollout.Data.Json
