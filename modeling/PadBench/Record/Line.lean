import PadBench.Json.Parsing
import PadBench.Record.Json
import PadBench.Text.Blank

/-!
The records of a line of an adapter's output.

A line is a JSON object or it is noise. An object with a member `log_type` is one record; any other
holds one record for each member, whose key is the tag. The two framings say the same: a member is read
as the tagged record it stands for.
-/
namespace PadBench.Record

/-- A record of a known tag whose body does not fit, or, with an empty tag, one whose tag is no text. -/
structure Malformed where
  tag : String
  deriving DecidableEq, Repr

def Malformed.message (malformed : Malformed) : String := "Malformed " ++ malformed.tag ++ " record"

/-- The record of the members of a tagged object. -/
def ofTagged (members : Json.Members) : Except Malformed Record :=
  match (Json.member? tagKey members).bind Json.string? with
  | none => .error ⟨""⟩
  | some tag =>
    match ofBody? tag members with
    | none => .error ⟨tag⟩
    | some record => .ok record

/-- The tagged object that a member stands for. A body that is no object counts as an empty one. -/
def tagged (key : String) (body : Json) : Json.Members :=
  let members := match body with
    | .obj members => members
    | _ => []
  Json.insertMember tagKey (.str key) members

/-- The records of an object. -/
def ofObject (members : Json.Members) : Except Malformed (List Record) :=
  match Json.member? tagKey members with
  | some _ => (ofTagged members).map ([·])
  | none => members.mapM fun (key, body) => ofTagged (tagged key body)

/-- The object on a line, if the line is one and nothing else but blanks around it. -/
def object? (line : String) : Option Json.Members :=
  match Text.trimBlanks line.toList with
  | '\x7b' :: rest =>
    match Json.parse? ('\x7b' :: rest) with
    | some (.obj members) => some members
    | _ => none
  | _ => none

/-- The records of a line; `none` for noise. -/
def ofLine? (line : String) : Except Malformed (Option (List Record)) :=
  match object? line with
  | none => .ok none
  | some members => (ofObject members).map some

/-- The records of a line, noise having none. -/
def listOfLine (line : String) : Except Malformed (List Record) :=
  (ofLine? line).map fun records => records.getD []

end PadBench.Record
