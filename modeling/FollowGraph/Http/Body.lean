import FollowGraph.Http.Parameter
import FollowGraph.Json.Reader
import FollowGraph.Text.Encoding
import FollowGraph.UserNode

/-!
Request bodies: reading one, and the two kinds of body that routes take.
-/

set_option autoImplicit false

namespace FollowGraph.Http

/-- A body, given by its text or by what its octets stand for. -/
inductive Body where
  /-- A text that claims to be JSON, as octets. -/
  | text (text : String)
  /-- Octets that stand for a value, whichever they are. Those that are not declared to be JSON
  stand for the text that they are. -/
  | value (value : Json)
  /-- Octets that are no text. -/
  | garbage

inductive BodyFault where
  | invalid (errors : List FieldError)
  | unreadable

/-- How deep lists and objects lie in one another in a body that is still read. -/
def bodyDepthLimit : Nat := 950

/-- The characters of a body: a byte order mark is dropped, and zeros among the first octets show
another encoding; nothing when the octets are no text in it. A surrogate that such an encoding
holds is replaced. -/
def bodyChars (text : String) : Option (List Char) :=
  let octets := text.toUTF8.toList.map UInt8.toNat
  match Text.Encoding.ofOctets octets with
  | .utf16 bigEndian =>
    (Text.units16 bigEndian octets).map fun units =>
      (Text.pairUnits units).map Json.charOfPoint
  | .utf32 bigEndian =>
    (Text.units32 bigEndian octets).map fun units => units.map Json.charOfPoint
  | .utf8 =>
    match text.toList with
    | '\uFEFF' :: rest => some rest
    | cs => some cs

def Body.read : Option Body → Except BodyFault (Option Json)
  | none => .ok none
  | some .garbage => .error .unreadable
  | some (.value v) => .ok (some v)
  | some (.text raw) =>
    if raw.isEmpty then .ok none
    else
      match bodyChars raw with
      | none => .error .unreadable
      | some cs =>
        match Json.readChars bodyDepthLimit cs with
        | .ok v => .ok (some v)
        | .error (.unexpected remaining) =>
          let place : Int := cs.length - remaining
          .error (.invalid
            [{ location := [.str "body", .int place], problem := .notJson, input := .obj [] }])
        | .error (.integerTooLong _) | .error (.tooDeep _) => .error .unreadable

def bodyMembers : Option Json → Except (List FieldError) (List (String × Json))
  | none => .error [{ location := [.str "body"], problem := .missing, input := .null }]
  | some (.obj members) => .ok members
  | some value => .error [{ location := [.str "body"], problem := .notObject, input := value }]

/-- A text member; nothing when it is absent. -/
def textMember? (members : List (String × Json)) (name : String) :
    Except FieldError (Option Json) :=
  match members.lookup name with
  | none => .ok none
  | some value =>
    if value.isText then .ok (some value)
    else .error { location := [.str "body", .str name], problem := .notText, input := value }

def missingMember (members : List (String × Json)) (name : String) : FieldError :=
  { location := [.str "body", .str name], problem := .missing, input := .obj members }

def textMember (members : List (String × Json)) (name : String) : Except FieldError Json :=
  match textMember? members name with
  | .ok (some text) => .ok text
  | .ok none => .error (missingMember members name)
  | .error e => .error e

/-- A user as it comes in a body, all of it texts; counters are never taken from one. -/
structure UserBody where
  userId : UserId
  profile : Profile
  deriving DecidableEq

def UserBody.ofJson (body : Option Json) : Except (List FieldError) UserBody :=
  match bodyMembers body with
  | .error errors => .error errors
  | .ok members =>
    let userId := textMember members "user_id"
    let username := textMember? members "username"
    let displayName := textMember? members "display_name"
    let role := textMember? members "role"
    let avatar := textMember? members "avatar_reference"
    match userId, username, displayName, role, avatar with
    | .ok userId, .ok username, .ok displayName, .ok role, .ok avatar =>
      .ok
        { userId
          profile :=
            { username := username.getD Profile.defaultText
              displayName := displayName.getD Profile.defaultText
              role := role.getD Profile.defaultRole
              avatarReference := avatar.getD Profile.defaultText } }
    | _, _, _, _, _ =>
      .error (errorsOf userId ++ errorsOf username ++ errorsOf displayName ++ errorsOf role ++
        errorsOf avatar)

def UserBody.toNode (b : UserBody) : Except Failure UserNode :=
  UserNode.build b.userId b.profile (.int 0) (.int 0)

/-- The items of a list that are no texts, from the item at a position on. -/
def textErrors (name : String) : Int → List Json → List FieldError
  | _, [] => []
  | position, item :: rest =>
    let others := textErrors name (position + 1) rest
    if item.isText then others
    else
      { location := [.str "body", .str name, .int position], problem := .notText, input := item } ::
        others

def interestsOfBody (body : Option Json) : Except (List FieldError) (List Json) :=
  match bodyMembers body with
  | .error errors => .error errors
  | .ok members =>
    let name := "interests"
    match members.lookup name with
    | none => .error [missingMember members name]
    | some (.arr items) =>
      match textErrors name 0 items with
      | [] => .ok items
      | errors => .error errors
    | some value =>
      .error [{ location := [.str "body", .str name], problem := .notList, input := value }]

end FollowGraph.Http
