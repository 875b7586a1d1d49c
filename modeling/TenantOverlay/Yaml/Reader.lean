import TenantOverlay.Yaml.Basic

/-!
# Reading YAML

Reads one document: block collections by indentation, flow collections, plain, quoted and block
scalars, anchors and aliases, tags, comments and document markers.
-/

namespace TenantOverlay.Yaml

/-- What is left of the text, the column it starts at, and the values of the anchors so far. A line
is fresh as long as only its indentation has been read. -/
structure Cursor where
  rest : List Char
  column : Nat := 0
  fresh : Bool := true
  anchors : List (String × Yaml) := []

/-- Reads from a cursor; none when the text is malformed. -/
abbrev Reader := StateT Cursor Option

def isBreak (c : Char) : Bool := c == '\n' || c == '\r'
def isGap (c : Char) : Bool := c == ' ' || c == '\t'
def isFlowMark (c : Char) : Bool := [',', '[', ']', '{', '}'].contains c

/-- Whether a text starts with a blank or a line break, or is at its end. -/
def atGap : List Char → Bool
  | [] => true
  | c :: _ => isGap c || isBreak c

/-- The length that a key without a question mark can have. -/
def keyLimit : Nat := 1024

/-- Whether what stands between two cursors can be a key without a question mark: it is on one line
and not too long. -/
def Cursor.isKeyUpTo (start stop : Cursor) : Bool :=
  let key := start.rest.take (start.rest.length - stop.rest.length)
  !key.any isBreak && decide (key.length ≤ keyLimit)

namespace Reader

def peek : Reader (List Char) := return (← get).rest
def column : Reader Nat := return (← get).column

/-- Goes a number of characters on within a line. -/
def advance (n : Nat) : Reader Unit :=
  modify fun c =>
    { c with rest := c.rest.drop n, column := c.column + n, fresh := c.fresh && n == 0 }

/-- Skips spaces within a line. -/
def skipSpaces : Reader Unit := do
  let line ← get
  advance (line.rest.takeWhile (· == ' ')).length
  modify fun c => { c with fresh := line.fresh }

/-- Skips blanks within a line. -/
def skipBlanks : Reader Unit := do advance ((← peek).takeWhile isGap).length

/-- Skips blanks within a line; a tab is no indentation. -/
def skipGaps : Reader Unit := do if (← get).fresh then skipSpaces else skipBlanks

/-- Skips a comment. -/
def skipComment : Reader Unit := do
  match ← peek with
  | '#' :: _ => advance ((← peek).takeWhile (!isBreak ·)).length
  | _ => return ()

/-- Goes to the next line, if this one is at its end. -/
def nextLine : Reader Bool := do
  match ← peek with
  | '\r' :: '\n' :: r => modify fun c => { c with rest := r, column := 0, fresh := true }; return true
  | c :: r =>
    if isBreak c then
      modify fun s => { s with rest := r, column := 0, fresh := true }
      return true
    else return false
  | [] => return false

/-- Skips lines that are empty or hold a comment, and the indentation of the next one. -/
def skipLines : Nat → Reader Unit
  | 0 => return ()
  | fuel + 1 => do
    skipComment
    if ← nextLine then
      skipSpaces
      skipLines fuel

/-- Skips blanks, comments and line breaks. -/
def skipAll : Nat → Reader Unit
  | 0 => return ()
  | fuel + 1 => do
    skipBlanks
    skipComment
    if ← nextLine then skipAll fuel

/-- Whether a document marker stands here. -/
def atMarker : Reader Bool := do
  if (← column) ≠ 0 then return false
  match ← peek with
  | '-' :: '-' :: '-' :: r | '.' :: '.' :: '.' :: r => return atGap r
  | _ => return false

/-- Whether the colon of a mapping stands here; right after a quoted key no gap is needed inside a
flow collection. -/
def atColon (flow adjacent : Bool) : Reader Bool := do
  match ← peek with
  | ':' :: r => return atGap r || flow && (adjacent || r.head?.any isFlowMark)
  | _ => return false

/-- The part of a plain scalar that stands on this line. -/
def plainLine (flow : Bool) (before : Char) : List Char → List Char
  | [] => []
  | c :: r =>
    if isBreak c then []
    else if c == '#' && isGap before then []
    else if c == ':' && (atGap r || flow && r.head?.any isFlowMark) then []
    else if flow && isFlowMark c then []
    else c :: plainLine flow c r

private def trimRight (cs : List Char) : List Char := (cs.reverse.dropWhile isGap).reverse

/-- What two parts of a folded scalar have between them: a space, or the line breaks after the
first. -/
def joint (breaks : Nat) : List Char := if breaks ≤ 1 then [' '] else List.replicate (breaks - 1) '\n'

/-- Counts the line breaks up to the next line that is not empty, and skips its indentation. -/
def countBreaks : Nat → Nat → Reader Nat
  | 0, n => return n
  | fuel + 1, n => do
    skipBlanks
    if ← nextLine then countBreaks fuel (n + 1) else return n

/-- The lines of a plain scalar after the first, which are indented more than its parent. -/
def plainRest (flow : Bool) (indent : Int) : Nat → List Char → Reader (List Char)
  | 0, soFar => return soFar
  | fuel + 1, soFar => do
    let start ← get
    let breaks ← countBreaks fuel 0
    let marker ← atMarker
    let line := plainLine flow ' ' (← peek)
    if breaks = 0 ∨ marker ∨ line.isEmpty ∨ (!flow ∧ ((← column) : Int) ≤ indent) then
      set start
      return soFar
    else
      advance line.length
      plainRest flow indent fuel (soFar ++ joint breaks ++ trimRight line)

/-- A hexadecimal number of a given width. -/
def escaped (width : Nat) : Reader Char := do
  let ds := (← peek).take width
  if ds.length < width then failure
  let n ← StateT.lift (inBase? 16 ds)
  advance width
  if n.isValidChar then return Char.ofNat n else failure

/-- The character that an escape stands for. -/
def escape (c : Char) : Reader Char :=
  match c with
  | '0' => return '\x00'
  | 'a' => return '\x07'
  | 'b' => return '\x08'
  | 't' | '\t' => return '\t'
  | 'n' => return '\n'
  | 'v' => return '\x0b'
  | 'f' => return '\x0c'
  | 'r' => return '\r'
  | 'e' => return '\x1b'
  | ' ' | '"' | '\'' | '/' | '\\' => return c
  | 'N' => return '\u0085'
  | '_' => return '\u00a0'
  | 'L' => return '\u2028'
  | 'P' => return '\u2029'
  | 'x' => escaped 2
  | 'u' => escaped 4
  | 'U' => escaped 8
  | _ => failure

/-- The rest of a quoted scalar and its closing quote. -/
def quoted (quote : Char) : Nat → List Char → Reader (List Char)
  | 0, _ => failure
  | fuel + 1, soFar => do
    match ← peek with
    | [] => failure
    | c :: r =>
      if c = quote then
        if quote = '\'' ∧ r.head? = some '\'' then
          advance 2
          quoted quote fuel (soFar ++ ['\''])
        else
          advance 1
          return soFar
      else if c = '\\' ∧ quote = '"' then
        match r with
        | [] => failure
        | e :: _ =>
          advance 1
          if isBreak e then
            let _ ← nextLine
            let more ← countBreaks fuel 0
            quoted quote fuel (soFar ++ List.replicate more '\n')
          else
            advance 1
            let x ← escape e
            quoted quote fuel (soFar ++ [x])
      else if isBreak c then
        let breaks ← countBreaks fuel 0
        if ← atMarker then failure
        quoted quote fuel (trimRight soFar ++ joint breaks)
      else
        advance 1
        quoted quote fuel (soFar ++ [c])

/-- The lines of a block scalar that are indented by at least a number of columns, each without its
indentation. -/
def blockLines (indent : Nat) : Nat → Reader (List (List Char))
  | 0 => return []
  | fuel + 1 => do
    let cs ← peek
    let spaces := (cs.takeWhile (· == ' ')).length
    let after := cs.drop spaces
    let blank := after.head?.all isBreak
    if after.isEmpty ∧ spaces < indent then return []
    if (!blank ∧ spaces < indent) ∨ (← atMarker) ∨ cs.isEmpty then return []
    advance (min spaces indent)
    let line := (← peek).takeWhile (!isBreak ·)
    advance line.length
    let more ← nextLine
    if more then return line :: (← blockLines indent fuel) else return [line]

/-- The indentation of the first line that is not empty. -/
def firstIndent : List Char → Nat → Nat
  | [], n => n
  | ' ' :: r, n => firstIndent r (n + 1)
  | c :: r, n => if isBreak c then firstIndent r 0 else n

/-- Folds the lines of a block scalar; lines that start with a blank keep their breaks. -/
def foldLines : List (List Char) → List Char
  | [] => []
  | [l] => l
  | l :: m :: r =>
    let keeps (x : List Char) : Bool := x.head?.any isGap
    let rest := foldLines (m :: r)
    if l.isEmpty then '\n' :: rest
    else if keeps l || keeps m then l ++ '\n' :: rest
    else if m.isEmpty then l ++ rest
    else l ++ ' ' :: rest

/-- A block scalar, after its mark. -/
def blockScalar (literal : Bool) (indent : Int) (fuel : Nat) : Reader String := do
  let marks := (← peek).takeWhile fun c => c == '+' || c == '-' || c.isDigit
  if marks.length > 2 then failure
  advance marks.length
  skipGaps
  skipComment
  let more ← nextLine
  let rest ← peek
  if !more ∧ !rest.isEmpty then failure
  let least := (indent + 1).toNat
  let width := match marks.find? Char.isDigit with
    | some d => indent.toNat + (d.toNat - '0'.toNat)
    | none => max least (firstIndent rest 0)
  let lines ← blockLines width fuel
  let ends := (lines.reverse.takeWhile List.isEmpty).length
  let body := lines.take (lines.length - ends)
  let content := if literal then (List.intersperse ['\n'] body).flatten else foldLines body
  let tail : List Char :=
    if marks.contains '-' ∨ body.isEmpty then []
    else if marks.contains '+' then List.replicate (ends + 1) '\n'
    else ['\n']
  return String.ofList (content ++ tail)

/-- A tag. -/
def tagText : Reader String := do
  let name := (← peek).takeWhile fun c => !isGap c && !isBreak c && !isFlowMark c
  advance name.length
  return String.ofList name

/-- The name of an anchor: letters and digits, then a gap or a mark that cannot be part of it. -/
def anchorName : Reader String := do
  let name := (← peek).takeWhile fun c => c.isAlphanum || c == '_' || c == '-'
  advance name.length
  let rest ← peek
  let ends := atGap rest || rest.head?.any ['?', ':', ',', ']', '}', '%', '@', '`'].contains
  if name.isEmpty || !ends then failure
  return String.ofList name

/-- The anchor and the tag before a node. -/
def properties : Nat → Option String × Option String → Reader (Option String × Option String)
  | 0, p => return p
  | fuel + 1, (anchor, tag) => do
    match ← peek with
    | '&' :: _ =>
      advance 1
      let name ← anchorName
      skipGaps
      properties fuel (some name, tag)
    | '!' :: _ =>
      let name ← tagText
      skipGaps
      properties fuel (anchor, some name)
    | _ => return (anchor, tag)

/-- Gives a value its name. -/
def named (anchor : Option String) (value : Yaml) : Reader Yaml := do
  match anchor with
  | some name => modify fun c => { c with anchors := (name, value) :: c.anchors }
  | none => pure ()
  return value

/-- The value of an alias. -/
def reference : Reader Yaml := do
  advance 1
  let name ← anchorName
  match (← get).anchors.find? fun a => a.1 == name with
  | some a => return a.2
  | none => failure

/-- What a plain scalar under a tag stands for. -/
def tagged (tag : Option String) (cs : List Char) : Yaml :=
  match tag with
  | none => ofPlain cs
  | some "!!bool" => match ofPlain cs with
    | .bool b => .bool b
    | _ => .null
  | some "!!int" => match Text.signed? Text.int64Bound cs with
    | some i => .int i
    | none => .null
  | some "!!float" =>
    if (Decimal.read? cs).isSome ∨ specialReals.contains (String.ofList cs) then
      .real (String.ofList cs)
    else .null
  | some "!!null" => .null
  | some _ => .text (String.ofList cs)

/-- Whether a plain scalar can start with these characters. -/
def startsPlain (flow : Bool) : List Char → Bool
  | [] => false
  | c :: r =>
    if c == '-' then !atGap r
    else if c == ':' || c == '?' then !atGap r
    else if c == '|' || c == '>' then flow
    else !([',', '[', ']', '{', '}', '#', '&', '*', '!', '\'', '"', '%', '@', '`'].contains c)

mutual

/-- A node inside a flow collection; whether a colon right after it needs no gap. -/
def flowNode : Nat → Reader (Yaml × Bool)
  | 0 => failure
  | fuel + 1 => do
    skipAll fuel
    let (anchor, tag) ← properties fuel (none, none)
    skipAll fuel
    match ← peek with
    | [] => failure
    | c :: _ =>
      if c = '[' then
        advance 1
        let v ← named anchor (.seq (← flowItems fuel))
        return (v, false)
      else if c = '{' then
        advance 1
        let v ← named anchor (.map (← flowEntries fuel))
        return (v, false)
      else if c = '"' ∨ c = '\'' then
        advance 1
        let v ← named anchor (.text (String.ofList (← quoted c fuel [])))
        return (v, true)
      else if c = '*' then return (← reference, false)
      else if [',', ']', '}'].contains c || (← atColon true false) then
        return (← named anchor (if tag.isSome then tagged tag [] else .null), false)
      else if !startsPlain true (← peek) then failure
      else
        let line := plainLine true ' ' (← peek)
        advance line.length
        let whole ← plainRest true 0 fuel (trimRight line)
        return (← named anchor (tagged tag whole), false)

/-- The items of a flow sequence and its closing bracket. -/
def flowItems : Nat → Reader (List Yaml)
  | 0 => failure
  | fuel + 1 => do
    skipAll fuel
    match ← peek with
    | ']' :: _ =>
      advance 1
      return []
    | cs =>
      let start ← get
      let explicit := cs.head? = some '?' ∧ atGap cs.tail
      if explicit then advance 1
      else if cs.head? = some ',' ∨ (← atColon true false) then failure
      let (key, isQuoted) ← flowNode fuel
      let adjacent := isQuoted && (← peek).head? == some ':'
      skipAll fuel
      let item ← if ← atColon true adjacent then
          if !explicit ∧ !start.isKeyUpTo (← get) then failure
          advance 1
          let (value, _) ← flowNode fuel
          pure (.map [(key, value)])
        else pure (if explicit then .map [(key, .null)] else key)
      skipAll fuel
      match ← peek with
      | ',' :: _ =>
        advance 1
        return item :: (← flowItems fuel)
      | ']' :: _ =>
        advance 1
        return [item]
      | _ => failure

/-- The entries of a flow mapping and its closing brace. -/
def flowEntries : Nat → Reader (List (Yaml × Yaml))
  | 0 => failure
  | fuel + 1 => do
    skipAll fuel
    match ← peek with
    | '}' :: _ =>
      advance 1
      return []
    | cs =>
      let start ← get
      let explicit := cs.head? = some '?' ∧ atGap cs.tail
      if explicit then advance 1
      else if cs.head? = some ',' then failure
      let (key, isQuoted) ← flowNode fuel
      let adjacent := isQuoted && (← peek).head? == some ':'
      skipAll fuel
      let value ← if ← atColon true adjacent then
          if !explicit ∧ !start.isKeyUpTo (← get) then failure
          advance 1
          let (value, _) ← flowNode fuel
          pure value
        else pure .null
      skipAll fuel
      match ← peek with
      | ',' :: _ =>
        advance 1
        return (key, value) :: (← flowEntries fuel)
      | '}' :: _ =>
        advance 1
        return [(key, value)]
      | _ => failure

/-- A node of a block. It is indented more than `indent`, except that a sequence may be indented
like the mapping it stands in. `compact` says whether a collection may start on this line. -/
def blockNode (indent : Int) (inMapping compact : Bool) : Nat → Reader Yaml
  | 0 => failure
  | fuel + 1 => do
    let line ← get
    skipGaps
    skipComment
    let sameLine := (← peek).head?.any (!isBreak ·)
    if !sameLine then skipLines fuel
    let compact := compact || !sameLine
    let cs ← peek
    let col ← column
    if cs.isEmpty ∨ (← atMarker) then return .null
    let dash := cs.head? = some '-' ∧ atGap cs.tail
    if (col : Int) ≤ indent ∧ !(dash ∧ inMapping ∧ (col : Int) = indent ∧ !sameLine) then
      if sameLine then set line
      return .null
    if dash then
      if compact then return .seq (← blockItems col fuel) else failure
    let node ← get
    let (anchor, tag) ← properties fuel (none, none)
    let first := (← peek).head?
    if (anchor.isSome || tag.isSome) ∧ first.all (fun c => isBreak c || c == '#') then
      let v ← blockNode indent inMapping true fuel
      return ← named anchor (match v, tag with
        | .null, some _ => tagged tag []
        | v, _ => v)
    let start ← peek
    if start.head? = some '?' ∧ atGap start.tail then
      if compact then return ← named anchor (.map (← blockEntries col fuel)) else failure
    if start.head? = some '|' ∨ start.head? = some '>' then
      advance 1
      return ← named anchor (.text (← blockScalar (start.head? = some '|') indent fuel))
    -- a value, which may turn out to be the first key of a mapping
    let before ← get
    let value ← blockAtom indent tag fuel
    let after ← get
    skipGaps
    if ← atColon false false then
      if !compact || !node.isKeyUpTo (← get) then failure
      set { before with rest := cs, column := col }
      return .map (← blockEntries col fuel)
    else
      set after
      named anchor value

/-- A value that is no block collection. -/
def blockAtom (indent : Int) (tag : Option String) : Nat → Reader Yaml
  | 0 => failure
  | fuel + 1 => do
    let cs ← peek
    match cs with
    | [] => return .null
    | c :: _ =>
      if c = '[' ∨ c = '{' then
        let (v, _) ← flowNode fuel
        return v
      else if c = '"' ∨ c = '\'' then
        advance 1
        return .text (String.ofList (← quoted c fuel []))
      else if c = '*' then reference
      else if ← atColon false false then return .null
      else if !startsPlain false cs then failure
      else
        let line := plainLine false ' ' cs
        advance line.length
        if ← atColon false false then return tagged tag (trimRight line)
        return tagged tag (← plainRest false indent fuel (trimRight line))

/-- The items of a block sequence at a column. -/
def blockItems (col : Nat) : Nat → Reader (List Yaml)
  | 0 => failure
  | fuel + 1 => do
    advance 1
    let item ← blockNode col false true fuel
    skipGaps
    skipLines fuel
    let cs ← peek
    if (← column) = col ∧ cs.head? = some '-' ∧ atGap cs.tail ∧ !(← atMarker) then
      return item :: (← blockItems col fuel)
    else if cs.isEmpty ∨ (← atMarker) ∨ (← column) ≤ col then return [item]
    else failure

/-- The entries of a block mapping at a column. -/
def blockEntries (col : Nat) : Nat → Reader (List (Yaml × Yaml))
  | 0 => failure
  | fuel + 1 => do
    let cs ← peek
    let key ← if cs.head? = some '?' ∧ atGap cs.tail then
        advance 1
        let key ← blockNode col false true fuel
        skipGaps
        skipLines fuel
        pure key
      else
        let start ← get
        let (anchor, tag) ← properties fuel (none, none)
        let key ← blockAtom col tag fuel
        skipGaps
        if !(← atColon false false) || !start.isKeyUpTo (← get) then failure
        named anchor key
    let explicit := cs.head? = some '?' ∧ atGap cs.tail
    let value ← if (← atColon false false) ∧ (!explicit ∨ (← column) = col) then
        advance 1
        blockNode col true explicit fuel
      else pure .null
    skipGaps
    skipLines fuel
    let next ← peek
    if next.isEmpty ∨ (← atMarker) ∨ (← column) < col then return [(key, value)]
    else if (← column) = col then return (key, value) :: (← blockEntries col fuel)
    else failure

end

/-- Skips the directives before a document; whether there are any. -/
def directives : Nat → Reader Bool
  | 0 => return false
  | fuel + 1 => do
    skipLines fuel
    match ← peek with
    | '%' :: _ =>
      if (← column) = 0 then
        advance ((← peek).takeWhile (!isBreak ·)).length
        let _ ← directives fuel
        return true
      else return false
    | _ => return false

/-- The one document of a text; none when there is nothing in it. -/
def document (fuel : Nat) : Reader (Option Yaml) := do
  skipSpaces
  let directed ← directives fuel
  let marked := (← peek).take 3 = ['-', '-', '-'] ∧ (← atMarker)
  if directed ∧ !marked then failure
  if (← peek).isEmpty then return none
  if marked then advance 3
  let v ← blockNode (-1) false (!marked) fuel
  skipGaps
  skipLines fuel
  if (← peek).take 3 = ['.', '.', '.'] ∧ (← atMarker) then
    advance 3
    skipAll fuel
  if (← peek).isEmpty then return some v else failure

end Reader

/-- Reads a text with at most one document. -/
def read? (text : String) : Option (Option Yaml) :=
  let cs := match text.toList with
    | '\uFEFF' :: r => r
    | cs => cs
  ((Reader.document (4 * cs.length + 8)).run { rest := cs }).map (·.1)

end TenantOverlay.Yaml
