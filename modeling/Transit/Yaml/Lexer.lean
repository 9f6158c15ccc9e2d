import Transit.Yaml.Token

/-!
# From text to tokens

A colon may show late that what stands before it is a key. The lexer keeps such places as
`KeyPlace`s, one for every open flow collection and one outside, and holds tokens back while the
first of them might still become a key.

* `Lexer.fetch` reads the next token from the text into the queue.
* `tokens` lists the tokens up to the end of the text, or up to the first thing wrong.
-/

namespace Transit.Yaml

/-- A token that may turn out to begin a key. -/
structure KeyPlace where
  /-- The number of the token in the whole text. -/
  number : Nat
  /-- Whether the token has to be a key. -/
  required : Bool
  offset : Nat
  line : Nat
  column : Nat

/-- The state of the lexer. -/
structure Lexer where
  cursor : Cursor
  /-- Whether the text ends where the cursor does; otherwise what follows cannot be read. -/
  whole : Bool
  /-- The column of the innermost block collection. -/
  indent : Int := -1
  /-- The columns of the collections around it. -/
  outer : List Int := []
  /-- The place in the block context. -/
  blockKey : Option KeyPlace := none
  /-- The places in the open flow collections, innermost first. -/
  flowKeys : List (Option KeyPlace) := []
  /-- Whether a key may begin here. -/
  keyAllowed : Bool := true
  /-- Tokens that have been read but not given out. -/
  queue : List Token := []
  /-- The number of tokens that have been given out. -/
  given : Nat := 0

namespace Lexer

/-- Whether a flow collection is open. -/
def inFlow (l : Lexer) : Bool := !l.flowKeys.isEmpty

/-- The place of the innermost collection. -/
def keyPlace? (l : Lexer) : Option KeyPlace :=
  match l.flowKeys with
  | [] => l.blockKey
  | k :: _ => k

/-- The lexer with another place for the innermost collection. -/
def withKeyPlace (l : Lexer) (k : Option KeyPlace) : Lexer :=
  match l.flowKeys with
  | [] => { l with blockKey := k }
  | _ :: ks => { l with flowKeys := k :: ks }

/-- Put a token at the end of the queue. -/
def push (l : Lexer) (t : Token) : Lexer := { l with queue := l.queue ++ [t] }

/-- Put a token before the one with a number. -/
def pushAt (l : Lexer) (number : Nat) (t : Token) : Lexer :=
  { l with queue := l.queue.insertIdx (number - l.given) t }

/-! ### Keys -/

/-- Give up the place of the innermost collection, which must not be required. -/
def dropKey (l : Lexer) : Option Lexer :=
  match l.keyPlace? with
  | some k => if k.required then none else some (l.withKeyPlace none)
  | none => some l

/-- Note the next token as one that may begin a key, if a key may begin here. -/
def noteKey (l : Lexer) : Option Lexer :=
  if l.keyAllowed then do
    let place : KeyPlace :=
      { number := l.given + l.queue.length
        required := !l.inFlow && l.indent == l.cursor.column
        offset := l.cursor.offset
        line := l.cursor.line
        column := l.cursor.column }
    return (← l.dropKey).withKeyPlace (some place)
  else some l

/-- Whether a place is too far back for a key: on an earlier line, or more than 1024 bytes away. -/
def isStale (l : Lexer) (k : KeyPlace) : Bool :=
  k.line < l.cursor.line || k.offset + 1024 < l.cursor.offset

/-- The place unless it is stale, which must not happen to a required one. -/
def freshKey (l : Lexer) : Option KeyPlace → Option (Option KeyPlace)
  | none => some none
  | some k => if l.isStale k then (if k.required then none else some none) else some (some k)

/-- Give up all stale places. -/
def dropStale (l : Lexer) : Option Lexer := do
  return { l with blockKey := ← l.freshKey l.blockKey, flowKeys := ← l.flowKeys.mapM l.freshKey }

/-! ### Indentation -/

/-- Open a block collection at a column that is deeper than the indentation. Its token goes before
the token with a number, or to the end. -/
def openBlock (l : Lexer) (column : Nat) (number : Option Nat) (t : Token) : Lexer :=
  if !l.inFlow && l.indent < column then
    let l := { l with indent := column, outer := l.indent :: l.outer }
    match number with
    | some n => l.pushAt n t
    | none => l.push t
  else l

/-- Close the first collections of a list that are deeper than a column: the tokens for them, and
the indentation that is left. -/
def closing (column : Int) (indent : Int) : List Int → List Token × Int × List Int
  | [] => ([], indent, [])
  | i :: rest =>
    if column < indent then
      let (ts, indent, outer) := closing column i rest
      (.blockEnd :: ts, indent, outer)
    else ([], indent, i :: rest)

/-- Close the block collections that are deeper than a column. -/
def closeBlocks (l : Lexer) (column : Int) : Lexer :=
  if l.inFlow then l
  else
    let (ts, indent, outer) := closing column l.indent l.outer
    { l with queue := l.queue ++ ts, indent := indent, outer := outer }

/-! ### One token -/

/-- Pass over blanks, comments and line breaks. A line may start with a byte order mark, and a tab
is a blank where no key may begin. -/
def toNextToken : Nat → Lexer → Lexer
  | 0, l => l
  | fuel + 1, l =>
    let c := l.cursor
    let c := if c.column == 0 && c.sees '\ufeff' then c.skip 1 else c
    let c := c.skipWhile fun x => x == ' ' || (x == '\t' && (l.inFlow || !l.keyAllowed))
    let c := if c.sees '#' then c.skipWhile fun x => !isBreak x else c
    if c.seesBreak then
      toNextToken fuel { l with cursor := c.skipLine, keyAllowed := l.keyAllowed || !l.inFlow }
    else { l with cursor := c }

/-- Put a token of `n` characters into the queue. -/
def take (l : Lexer) (n : Nat) (t : Token) : Lexer :=
  { l.push t with cursor := l.cursor.skip n }

/-- The end of the text, which counts as a new line. -/
def fetchEnd (l : Lexer) : Option Lexer := do
  let l ← (l.closeBlocks (-1)).dropKey
  let c := l.cursor
  let c := if c.column == 0 then c else ⟨c.rest, c.offset, c.line + 1, 0⟩
  return { l.push .streamEnd with cursor := c, keyAllowed := false }

/-- A directive. -/
def fetchDirective (l : Lexer) : Option Lexer := do
  let l ← (l.closeBlocks (-1)).dropKey
  let (t, c) ← readDirective l.cursor
  return { l.push t with cursor := c, keyAllowed := false }

/-- A mark between documents. -/
def fetchMark (l : Lexer) (t : Token) : Option Lexer := do
  let l ← (l.closeBlocks (-1)).dropKey
  return { l.take 3 t with keyAllowed := false }

/-- The start of a flow collection, which may itself begin a key. -/
def fetchFlowStart (l : Lexer) (t : Token) : Option Lexer := do
  let l ← l.noteKey
  return { l.take 1 t with flowKeys := none :: l.flowKeys, keyAllowed := true }

/-- The end of a flow collection. -/
def fetchFlowEnd (l : Lexer) (t : Token) : Option Lexer := do
  let l ← l.dropKey
  return { l.take 1 t with flowKeys := l.flowKeys.tail, keyAllowed := false }

/-- A comma between the entries of a flow collection. -/
def fetchFlowEntry (l : Lexer) : Option Lexer := do
  let l ← l.dropKey
  return { l.take 1 .flowEntry with keyAllowed := true }

/-- The dash before an entry of a block sequence. -/
def fetchBlockEntry (l : Lexer) : Option Lexer := do
  if !l.inFlow && !l.keyAllowed then none
  let l ← (l.openBlock l.cursor.column none .blockSequenceStart).dropKey
  return { l.take 1 .blockEntry with keyAllowed := true }

/-- The question mark before a key. -/
def fetchKey (l : Lexer) : Option Lexer := do
  if !l.inFlow && !l.keyAllowed then none
  let l ← (l.openBlock l.cursor.column none .blockMappingStart).dropKey
  return { l.take 1 .key with keyAllowed := !l.inFlow }

/-- The colon before a value. What stands at the place of the collection becomes the key. -/
def fetchValue (l : Lexer) : Option Lexer := do
  match l.keyPlace? with
  | some k =>
    let l := ((l.pushAt k.number .key).openBlock k.column (some k.number) .blockMappingStart)
      |>.withKeyPlace none
    return { l.take 1 .value with keyAllowed := false }
  | none =>
    if !l.inFlow && !l.keyAllowed then none
    let l := l.openBlock l.cursor.column none .blockMappingStart
    return { l.take 1 .value with keyAllowed := !l.inFlow }

/-- An anchor, or a reference to one. -/
def fetchAnchor (l : Lexer) (token : String → Token) : Option Lexer := do
  let l ← l.noteKey
  let (name, c) ← readAnchor l.cursor
  return { l.push (token name) with cursor := c, keyAllowed := false }

/-- A tag. -/
def fetchTag (l : Lexer) : Option Lexer := do
  let l ← l.noteKey
  let (t, c) ← readTag l.inFlow l.cursor
  return { l.push t with cursor := c, keyAllowed := false }

/-- A block scalar. -/
def fetchBlockScalar (l : Lexer) (style : Style) : Option Lexer := do
  let l ← l.dropKey
  let (text, c) ← readBlock (style == .literal) l.indent l.cursor
  return { l.push (.scalar text style) with cursor := c, keyAllowed := true }

/-- A quoted scalar. -/
def fetchQuoted (l : Lexer) (style : Style) : Option Lexer := do
  let l ← l.noteKey
  let (text, c) ← readQuoted (style == .singleQuoted) l.cursor
  return { l.push (.scalar text style) with cursor := c, keyAllowed := false }

/-- A plain scalar. A key may begin behind it when it ended on a later line. -/
def fetchPlain (l : Lexer) : Option Lexer := do
  let l ← l.noteKey
  let (text, broken, c) ← readPlain l.inFlow (l.indent + 1) l.cursor
  return { l.push (.scalar text .plain) with cursor := c, keyAllowed := broken }

/-- Whether a plain scalar may begin with `x` before `next`. -/
def beginsPlain (flow : Bool) (x : Char) (next : Option Char) : Bool :=
  !(isBlank x || "-?:,[]\x7b\x7d#&*!|>'\"%@`".toList.contains x)
    || (x == '-' && !next.any isBlank)
    || (!flow && (x == '?' || x == ':') && !endsWord next)

/-- Read the token in front, with what it shows about the tokens before it. -/
def fetchFront (l : Lexer) : Option Lexer :=
  let c := l.cursor
  match c.rest with
  | [] => fetchEnd (l.closeBlocks c.column)
  | x :: rest =>
    let l := l.closeBlocks c.column
    let next := rest.head?
    let flow := l.inFlow
    if c.column == 0 && x == '%' then l.fetchDirective
    else if c.seesMark '-' then l.fetchMark .documentStart
    else if c.seesMark '.' then l.fetchMark .documentEnd
    else if x == '[' then l.fetchFlowStart .flowSequenceStart
    else if x == '{' then l.fetchFlowStart .flowMappingStart
    else if x == ']' then l.fetchFlowEnd .flowSequenceEnd
    else if x == '}' then l.fetchFlowEnd .flowMappingEnd
    else if x == ',' then l.fetchFlowEntry
    else if x == '-' && endsWord next then l.fetchBlockEntry
    else if x == '?' && (flow || endsWord next) then l.fetchKey
    else if x == ':' && (flow || endsWord next) then l.fetchValue
    else if x == '*' then l.fetchAnchor .reference
    else if x == '&' then l.fetchAnchor .anchor
    else if x == '!' then l.fetchTag
    else if x == '|' && !flow then l.fetchBlockScalar .literal
    else if x == '>' && !flow then l.fetchBlockScalar .folded
    else if x == '\'' then l.fetchQuoted .singleQuoted
    else if x == '"' then l.fetchQuoted .doubleQuoted
    else if beginsPlain flow x next then l.fetchPlain
    else none

/-- Whether more characters than `n` are in front, or the text ends. -/
def knows (l : Lexer) (n : Nat) : Bool := l.whole || !(l.cursor.rest.drop n).isEmpty

/-- Read the next token of the text into the queue. There is none when the text breaks the rules or
cannot be read as far as the token needs. -/
def fetch (l : Lexer) : Option Lexer := do
  let l ← (toNextToken (l.cursor.rest.length + 1) l).dropStale
  if !l.knows 3 then none
  let l ← l.fetchFront
  if l.knows 0 then return l else none

/-! ### All tokens -/

/-- Whether the first token of the queue may still become a key. -/
def headMayBeKey (l : Lexer) : Bool :=
  l.blockKey.any (·.number == l.given)
    || l.flowKeys.any fun k => k.any (·.number == l.given)

/-- Read on until the first token of the queue is certain. -/
def settle : Nat → Lexer → Option Lexer
  | 0, _ => none
  | fuel + 1, l =>
    if l.queue.isEmpty then do settle fuel (← l.fetch)
    else do
      let l ← l.dropStale
      if l.headMayBeKey then settle fuel (← l.fetch) else return l

/-- The tokens from here to the end of the text, or to the first thing wrong. Every token but the
last passes over a character or closes a collection that a character has opened, so `fuel` of a few
times the length of the text is enough. -/
def all : Nat → Lexer → List Token
  | 0, _ => []
  | fuel + 1, l =>
    match settle (l.cursor.rest.length + 2) l with
    | none => []
    | some l =>
      match l.queue with
      | [] => []
      | .streamEnd :: _ => [.streamEnd]
      | t :: rest => t :: all fuel { l with queue := rest, given := l.given + 1 }

end Lexer

/-- The bytes of the blocks that a text is read in. A character that does not fit into a block
begins the next one. -/
def blockSize : Nat := 16384

/-- The number of characters before the block with the first character that no text may hold, if
there is one. `start` characters come before this block, `passed` before this place, and `used`
bytes of the block are taken. -/
def unreadableFrom? : (start passed used : Nat) → List Char → Option Nat
  | _, _, _, [] => none
  | start, passed, used, c :: rest =>
    let fits := used + c.utf8Size ≤ blockSize
    let start := if fits then start else passed
    if isAllowed c then
      unreadableFrom? start (passed + 1) (if fits then used + c.utf8Size else c.utf8Size) rest
    else some start

/-- The tokens of a text. The last one is `streamEnd` unless something is wrong; then they end
before it. -/
def tokens (text : String) : List Token :=
  let cs := text.toList
  let fuel := 4 * cs.length + 4
  match unreadableFrom? 0 0 0 cs with
  | none => Lexer.all fuel { cursor := { rest := cs }, whole := true }
  | some n => Lexer.all fuel { cursor := { rest := cs.take n }, whole := false }

end Transit.Yaml
