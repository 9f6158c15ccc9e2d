import Transit.Config
import Transit.Directory
import Transit.Yaml.Event
import Transit.Yaml.Resolve

/-!
# Configurations in YAML

A configuration is a mapping of the two switches; keys that are no switch are passed over and
missing ones take their defaults.

* `Config.ofYaml` reads a text. Data of the wrong shape is reported before what is wrong with the
  text behind it.
* `Config.toYaml` writes the two switches, a line each.
-/

namespace Transit.Yaml

/-- Why a text is no configuration. -/
inductive ConfigError
  /-- The text is not one sound document. -/
  | unsound
  /-- The data has the wrong shape, under a key if a path is given. -/
  | shape (path : Option String) (e : ShapeError Found)

/-- The wording of the error, for data of the wrong shape. -/
def ConfigError.shown? : ConfigError → Option String
  | .unsound => none
  | .shape path e =>
    let place := match path with
      | some key => key ++ ": "
      | none => ""
    some ("Invalid configuration: " ++ place ++ e.message Found.describe)

/-! ### References -/

/-- The anchors met so far. Anchors are numbered as they come; a number belongs to the node that
took it last. -/
structure Anchors where
  numbers : Directory String Nat := ∅
  nodes : Directory Nat Event := ∅

/-- Enter an anchor for the event that begins its node. -/
def Anchors.enter (a : Anchors) (name : Option String) (e : Event) : Anchors :=
  match name with
  | none => a
  | some name =>
    let number := a.numbers.keys.length
    ⟨a.numbers.insert name number, a.nodes.insert number e⟩

/-- The events with every reference replaced by the number of its anchor, up to the first unknown
one, and the anchors. -/
def number : Anchors → List Event → List (Event × Option Nat) × Anchors × Bool
  | a, [] => ([], a, true)
  | a, e :: rest =>
    let follow (a : Anchors) (n : Option Nat) :=
      let (others, a, known) := number a rest
      ((e, n) :: others, a, known)
    match e with
    | .reference name =>
      match a.numbers.get? name with
      | some n => follow a (some n)
      | none => ([], a, false)
    | .scalar p _ _ | .sequenceStart p | .mappingStart p => follow (a.enter p.anchor e) none
    | _ => follow a none

/-- An event, a reference being replaced by the event at its anchor, and the event as written. -/
abbrev Seen := Event × Event

/-- The events of a document up to the first unknown reference, and whether there is none. -/
def resolved (events : List Event) : List Seen × Bool :=
  let (numbered, a, known) := number {} events
  (numbered.map fun x => ((x.2.bind a.nodes.get?).getD x.1, x.1), known)

/-! ### Nodes -/

/-- The events behind a node, given how many collections are open. -/
def skipNode : Nat → List Seen → Option (List Seen)
  | _, [] => none
  | depth, (_, e) :: rest =>
    match e with
    | .sequenceStart _ | .mappingStart _ => skipNode (depth + 1) rest
    | .sequenceEnd | .mappingEnd => if depth ≤ 1 then some rest else skipNode (depth - 1) rest
    | _ => if depth = 0 then some rest else skipNode depth rest

/-- The refusal of an event where something else was expected. -/
def mismatch (e : Event) (expected : String) : ShapeError Found :=
  match e with
  | .scalar p text style =>
    match resolve p.tag style text with
    | .ok x => .invalidType x expected
    | .error e => e
  | .mappingStart _ => .invalidType .map expected
  | _ => .invalidType .sequence expected

/-- Whether a scalar counts as a word of the core schema: when it is plain, or a literal block with
the tag for it. -/
def isWord (kind : String) (tag : Option Tag) (style : Style) : Bool :=
  style == .plain || (style == .literal && tag == some (.core kind))

/-- A boolean. -/
def readBool (e : Event) : Except (ShapeError Found) Bool :=
  match e with
  | .scalar p text style =>
    match if isWord "bool" p.tag style then boolean? text else none with
    | some b => .ok b
    | none => .error (mismatch e "a boolean")
  | _ => .error (mismatch e "a boolean")

/-- The policy under a name. -/
def policy (name : String) : Except (ShapeError Found) InboundPolicy :=
  let all : List InboundPolicy := [.zero, .reverseSum]
  match all.find? fun p => p.name == name with
  | some p => .ok p
  | none => .error (.unknownVariant name (all.map InboundPolicy.name))

/-- Whether a node with a tag for a name holds nothing else. -/
def checkEmpty (e : Event) : Except (ShapeError Found) Unit :=
  match e with
  | .scalar _ text style =>
    if style == .plain && (text.isEmpty || isNull text) then .ok ()
    else .error (.invalidValue (.string text) "null")
  | _ => .error (mismatch e "unit")

/-- A policy under a key: named by a tag, or by the text of a scalar. An unknown name in a tag is
reported without the key unless a reference leads to the node. -/
def readPolicy (key : String) (seen : Seen) : Except ConfigError InboundPolicy :=
  let (e, written) := seen
  let tagged (name : String) : Except ConfigError InboundPolicy := do
    let p ← (policy name).mapError (.shape (if e = written then none else some key))
    (checkEmpty e).mapError (.shape (some key))
    return p
  let collection (p : Properties) (found : Found) : Except ConfigError InboundPolicy :=
    match p.tag.bind Tag.name? with
    | some name => tagged name
    | none => .error (.shape (some key) (.invalidType found "a YAML tag starting with '!'"))
  match e with
  | .scalar p text _ =>
    match p.tag.bind Tag.name? with
    | some name => tagged name
    | none => (policy text).mapError (.shape (some key))
  | .mappingStart p => collection p .map
  | .sequenceStart p => collection p .sequence
  | _ => .error .unsound

/-! ### The mapping -/

/-- The switches met so far. -/
structure Switches where
  inbound : Option InboundPolicy := none
  strictRoutes : Option Bool := none

/-- The configuration of the switches met and the defaults of the others. -/
def Switches.config (s : Switches) : Config :=
  let base : Config := {}
  ⟨s.inbound.getD base.inbound, s.strictRoutes.getD base.strictRoutes⟩

/-- Read the value under a key, with the key as the path to it if it is written there. -/
def readSwitch (s : Switches) (key : String) (path : String) (rest : List Seen) :
    Except ConfigError (Switches × List Seen) :=
  let value (read : Seen → Except ConfigError Switches) :
      Except ConfigError (Switches × List Seen) :=
    match rest with
    | [] => .error .unsound
    | seen :: rest => do return (← read seen, rest)
  if key = "inbound_travel_time" then
    if s.inbound.isSome then .error (.shape none (.duplicateField key))
    else value fun seen => do return { s with inbound := some (← readPolicy path seen) }
  else if key = "strict_routes" then
    if s.strictRoutes.isSome then .error (.shape none (.duplicateField key))
    else value fun seen => do
      return { s with strictRoutes := some (← (readBool seen.1).mapError (.shape (some path))) }
  else match skipNode 0 rest with
    | some rest => .ok (s, rest)
    | none => .error .unsound

/-- Read the entries of the mapping up to its end. Every round passes over an event. -/
def readSwitches : Nat → Switches → List Seen → Except ConfigError Switches
  | 0, _, _ => .error .unsound
  | _, _, [] => .error .unsound
  | fuel + 1, s, (e, written) :: rest =>
    match e with
    | .mappingEnd => .ok s
    | .scalar _ key _ => do
      let path := if e = written then key else "?"
      let (s, rest) ← readSwitch s key path rest
      readSwitches fuel s rest
    | _ => .error (.shape none (mismatch e "field identifier"))

/-- The configuration that the events of a document tell. An empty document tells the default. -/
def readConfig : List Seen → Except ConfigError Config
  | [] | (.scalar _ "" .plain, _) :: _ => .ok {}
  | (.mappingStart _, _) :: rest => (readSwitches (rest.length + 1) {} rest).map Switches.config
  | (e, _) :: _ => .error (.shape none (mismatch e "struct NetworkConfig"))

end Transit.Yaml

namespace Transit.Config

open Transit.Yaml

/-- Read a configuration. A text without a document is the default. -/
def ofYaml (text : String) : Except ConfigError Config := do
  let (events, sound) := document text
  let (seen, known) := resolved events
  let config ← readConfig seen
  if sound && known then return config else throw .unsound

/-- The configuration as a line for each switch. -/
def toYaml (c : Config) : String :=
  "inbound_travel_time: " ++ c.inbound.name ++ "\n"
    ++ "strict_routes: " ++ toString c.strictRoutes ++ "\n"

end Transit.Config
