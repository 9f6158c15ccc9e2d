import Transit.Yaml.Lexer

/-!
# Events of a YAML document

The nodes of a document in the order of the text, collections as their starts and ends.

* A stack of `Goal`s says what the tokens may go on with.
* `Goal.step` takes the topmost goal one step further.
* `document` gives the events of the first document of a text up to the first thing wrong, and
  tells whether the whole text is one sound document.
-/

namespace Transit.Yaml

/-- The properties that may stand before a node. -/
structure Properties where
  anchor : Option String := none
  tag : Option Tag := none
  deriving DecidableEq, Repr

/-- An event. -/
inductive Event
  | reference (anchor : String)
  | scalar (properties : Properties) (text : String) (style : Style)
  | sequenceStart (properties : Properties)
  | sequenceEnd
  | mappingStart (properties : Properties)
  | mappingEnd
  deriving DecidableEq, Repr

/-- The node that stands where nothing is written. -/
def Event.empty : Event := .scalar {} "" .plain

/-! ### Tags -/

/-- What the handles of tags stand for. -/
abbrev Handles := List (String × Tag)

/-- The handles that need no directive. -/
def defaultHandles : Handles := [("!", .ofString "!"), ("!!", .core "")]

/-- The tag of a handle and a suffix, if the handle is known. -/
def Handles.resolve (hs : Handles) (handle : String) (suffix : Tag) : Option Tag :=
  if handle.isEmpty then some suffix else (hs.lookup handle).map (· ++ suffix)

/-- Read the properties of a node, in either order. -/
def readProperties (hs : Handles) : List Token → Option (Properties × List Token)
  | .anchor a :: .tag h s :: rest => do return (⟨some a, some (← hs.resolve h s)⟩, rest)
  | .tag h s :: .anchor a :: rest => do return (⟨some a, some (← hs.resolve h s)⟩, rest)
  | .anchor a :: rest => some (⟨some a, none⟩, rest)
  | .tag h s :: rest => do return (⟨none, some (← hs.resolve h s)⟩, rest)
  | ts => some ({}, ts)

/-! ### Goals -/

/-- What the tokens may go on with. -/
inductive Goal
  | node (block indentless : Bool)
  | blockEntries
  | indentlessEntries
  | blockKeys
  | blockValue
  | flowEntries (first : Bool)
  | pairKey
  | pairValue
  | pairEnd
  | flowKeys (first : Bool)
  | flowValue
  | noFlowValue
  deriving DecidableEq, Repr

/-- What a step gives: events, the goals in place of the topmost one, and the tokens left. -/
abbrev Step := List Event × List Goal × List Token

namespace Goal

/-- A node, unless a token ends the place where it could stand. -/
def nodeUnless (ends : Token → Bool) (goal next : Goal) (ts : List Token) : Option Step :=
  match ts with
  | [] => none
  | t :: _ => if ends t then some ([.empty], [next], ts) else some ([], [goal, next], ts)

/-- The tokens after the comma that parts the entries of a flow collection. -/
def afterComma (first : Bool) (ts : List Token) : Option (List Token) :=
  if first then some ts
  else match ts with
    | .flowEntry :: rest => some rest
    | _ => none

/-- One step of a node. -/
def nodeStep (hs : Handles) (block indentless : Bool) (ts : List Token) : Option Step :=
  match ts with
  | .reference a :: rest => some ([.reference a], [], rest)
  | _ => do
    let (props, ts) ← readProperties hs ts
    match ts with
    | [] => none
    | t :: rest =>
      match t with
      | .scalar text style => return ([.scalar props text style], [], rest)
      | .flowSequenceStart => return ([.sequenceStart props], [flowEntries true], rest)
      | .flowMappingStart => return ([.mappingStart props], [flowKeys true], rest)
      | _ =>
        if indentless && t == .blockEntry then
          return ([.sequenceStart props], [indentlessEntries], ts)
        else if block && t == .blockSequenceStart then
          return ([.sequenceStart props], [blockEntries], rest)
        else if block && t == .blockMappingStart then
          return ([.mappingStart props], [blockKeys], rest)
        else if props.anchor.isSome || props.tag.isSome then
          return ([.scalar props "" .plain], [], ts)
        else none

/-- One step of a goal. There is none when the tokens cannot go on with it. -/
def step (hs : Handles) (g : Goal) (ts : List Token) : Option Step :=
  match g, ts with
  | _, [] => none
  | node block indentless, ts => nodeStep hs block indentless ts
  | blockEntries, .blockEntry :: rest =>
    nodeUnless (fun t => t == .blockEntry || t == .blockEnd) (node true false) blockEntries rest
  | blockEntries, .blockEnd :: rest => some ([.sequenceEnd], [], rest)
  | blockEntries, _ => none
  | indentlessEntries, .blockEntry :: rest =>
    nodeUnless (fun t => t == .blockEntry || t == .key || t == .value || t == .blockEnd)
      (node true false) indentlessEntries rest
  | indentlessEntries, ts => some ([.sequenceEnd], [], ts)
  | blockKeys, .key :: rest =>
    nodeUnless (fun t => t == .key || t == .value || t == .blockEnd) (node true true) blockValue
      rest
  | blockKeys, .blockEnd :: rest => some ([.mappingEnd], [], rest)
  | blockKeys, _ => none
  | blockValue, .value :: rest =>
    nodeUnless (fun t => t == .key || t == .value || t == .blockEnd) (node true true) blockKeys
      rest
  | blockValue, ts => some ([.empty], [blockKeys], ts)
  | flowEntries _, .flowSequenceEnd :: rest => some ([.sequenceEnd], [], rest)
  | flowEntries first, ts => do
    match ← afterComma first ts with
    | [] => none
    | .flowSequenceEnd :: rest => return ([.sequenceEnd], [], rest)
    | .key :: rest => return ([.mappingStart {}], [pairKey, flowEntries false], rest)
    | ts => return ([], [node false false, flowEntries false], ts)
  | pairKey, t :: rest =>
    if t == .value || t == .flowEntry || t == .flowSequenceEnd then
      some ([.empty], [pairValue], rest)
    else some ([], [node false false, pairValue], t :: rest)
  | pairValue, .value :: rest =>
    nodeUnless (fun t => t == .flowEntry || t == .flowSequenceEnd) (node false false) pairEnd rest
  | pairValue, ts => some ([.empty], [pairEnd], ts)
  | pairEnd, ts => some ([.mappingEnd], [], ts)
  | flowKeys _, .flowMappingEnd :: rest => some ([.mappingEnd], [], rest)
  | flowKeys first, ts => do
    match ← afterComma first ts with
    | [] => none
    | .flowMappingEnd :: rest => return ([.mappingEnd], [], rest)
    | .key :: rest =>
      nodeUnless (fun t => t == .value || t == .flowEntry || t == .flowMappingEnd)
        (node false false) flowValue rest
    | ts => return ([], [node false false, noFlowValue], ts)
  | flowValue, .value :: rest =>
    nodeUnless (fun t => t == .flowEntry || t == .flowMappingEnd) (node false false)
      (flowKeys false) rest
  | flowValue, ts => some ([.empty], [flowKeys false], ts)
  | noFlowValue, ts => some ([.empty], [flowKeys false], ts)

/-- Work off a stack of goals: the events, and the tokens left if nothing is wrong. A token is
worth less than eight steps. -/
def run (hs : Handles) : Nat → List Goal → List Token → List Event × Option (List Token)
  | _, [], ts => ([], some ts)
  | 0, _ :: _, _ => ([], none)
  | fuel + 1, g :: goals, ts =>
    match g.step hs ts with
    | none => ([], none)
    | some (events, more, ts) =>
      let (others, rest) := run hs fuel (more ++ goals) ts
      (events ++ others, rest)

end Goal

/-! ### Documents -/

/-- The directives before a document: whether a version has been given, and the handles. -/
def readDirectives : Bool → Handles → List Token → Option (Handles × List Token)
  | version, hs, .versionDirective major minor :: rest =>
    if version || major != 1 || (minor != 1 && minor != 2) then none
    else readDirectives true hs rest
  | version, hs, .tagDirective handle lead :: rest =>
    if (hs.lookup handle).isSome then none
    else readDirectives version (hs ++ [(handle, lead)]) rest
  | _, hs, ts => some (hs ++ defaultHandles, ts)

/-- Where the first document begins: the handles, the goals and the tokens. -/
def openDocument (ts : List Token) : Option (Handles × List Goal × List Event × List Token) := do
  let (hs, rest) ← readDirectives false [] ts
  match rest with
  | .documentStart :: rest =>
    match rest with
    | [] => none
    | .documentStart :: _ | .documentEnd :: _ | .streamEnd :: _ | .versionDirective _ _ :: _
    | .tagDirective _ _ :: _ => return (hs, [], [.empty], rest)
    | _ => return (hs, [.node true false], [], rest)
  | _ => if rest.length = ts.length then return (hs, [.node true false], [], rest) else none

/-- Whether nothing but the end of the text follows a document. -/
def endsText : List Token → Bool
  | .documentEnd :: rest => endsText rest
  | [.streamEnd] => true
  | _ => false

/-- The events of the first document of a text up to the first thing wrong, and whether the text is
that document and nothing is wrong. An empty text has no events. -/
def document (text : String) : List Event × Bool :=
  let ts := tokens text
  if ts == [.streamEnd] then ([], true)
  else match openDocument ts with
    | none => ([], false)
    | some (hs, goals, first, rest) =>
      let (events, left) := Goal.run hs (8 * rest.length + 8) goals rest
      (first ++ events, left.any endsText)

end Transit.Yaml
