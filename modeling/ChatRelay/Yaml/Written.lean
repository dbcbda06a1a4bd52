import ChatRelay.Json.Printer
import ChatRelay.Yaml.Error
import ChatRelay.Yaml.Fold
import ChatRelay.Yaml.Node
import ChatRelay.Yaml.Tag

/-!
# Writing nodes

A collection that is a key of a map names its entry by the way in which it is written: in brackets,
within a line if it fits, with its tags, anchors and comments. A scalar is written as it was found
where that is possible, and in quotes where it would be read as something else.

An alias can only be written if its anchor has been met before, so the names of the anchors met are
a state.
-/

namespace ChatRelay.Yaml

open Text (unit)

/-! ## Comments -/

/-- Whether a unit ends a line of a comment. -/
def endsCommentLine (u : CodeUnit) : Bool :=
  u == lineFeed || u == carriageReturn || u == 0x2028 || u == 0x2029

/-- A text with each of its lines changed. -/
def mapLines (f : Text → Text) (t : Text) : Text :=
  go [] t
where
  /-- Collects the current line in reverse. -/
  go (line : Text) : Text → Text
    | [] => f line.reverse
    | u :: r => if endsCommentLine u then f line.reverse ++ u :: go [] r else go (u :: line) r

/-- A comment as it is written, with a hash before each line that is not empty. -/
def commentText (comment : Text) : Text :=
  mapLines (fun line => if line.isEmpty then [] else if line = [32] then "#" else unit '#' :: line)
    comment

/-- The indentation of a line. -/
def indentation (n : Nat) : Text := List.replicate n 32

/-- A written comment with each line indented that is not empty. One that is made of line breaks
loses the first. -/
def indentedComment (indent : Nat) (comment : Text) : Text :=
  if !comment.isEmpty && comment.all (· == lineFeed) then comment.drop 1
  else mapLines (fun line => if line.all (· == 32) then line else indentation indent ++ line) comment

/-- A written comment behind something: in its line if it is one line, else below. -/
def commentBehind (written : Text) (indent : Nat) (comment : Text) : Text :=
  if written.getLast? = some lineFeed then indentedComment indent comment
  else if comment.contains lineFeed then lineFeed :: indentedComment indent comment
  else if written.getLast? = some 32 then comment
  else 32 :: comment

/-! ## Scalars -/

/-- Where something is written: the indentation, whether as a key in the line of its value, whether
entries are written as keys alone, and how much of the line is taken. -/
structure Pen where
  indent : Nat := 0
  inKey : Bool := false
  bareKeys : Bool := false
  used : Option Nat := none

/-- The escape of a code unit in double quotes, from its four hexadecimal digits. -/
def shortEscape (digits : Text) : Text :=
  if digits = "0000" then "\\0" else if digits = "0007" then "\\a"
  else if digits = "000b" then "\\v" else if digits = "001b" then "\\e"
  else
    match Text.after? "00" digits with
    | some low => "\\x" ++ low
    | none => "\\u" ++ digits

/-- How many line breaks begin a text in which they are escaped, without one at the very end, and
what follows. -/
def escapedBreaks : Text → Nat × Text
  | a :: b :: c :: r =>
    if a = unit '\\' ∧ b = unit 'n' ∧ c ≠ unit '"' then
      let (n, rest) := escapedBreaks (c :: r)
      (n + 1, rest)
    else (0, a :: b :: c :: r)
  | t => (0, t)

/-- What follows line breaks is no longer. -/
theorem length_escapedBreaks (t : Text) : (escapedBreaks t).2.length ≤ t.length := by
  -- A step takes two units, so the induction is on a bound of the length.
  generalize hn : t.length = n
  induction n using Nat.strongRecOn generalizing t with
  | ind n ih =>
      subst hn
      rcases t with - | ⟨a, - | ⟨b, - | ⟨c, r⟩⟩⟩
      · exact Nat.le_refl _
      · exact Nat.le_refl _
      · exact Nat.le_refl _
      · by_cases hbreak : a = unit '\\' ∧ b = unit 'n' ∧ c ≠ unit '"'
        · have hrest : escapedBreaks (a :: b :: c :: r)
              = ((escapedBreaks (c :: r)).1 + 1, (escapedBreaks (c :: r)).2) := by
            rw [escapedBreaks, if_pos hbreak]
          have hle := ih (c :: r).length (by simp only [List.length_cons]; omega) (c :: r) rfl
          rw [hrest]
          simp only [List.length_cons] at hle ⊢
          omega
        · have hnone : escapedBreaks (a :: b :: c :: r) = (0, a :: b :: c :: r) := by
            rw [escapedBreaks, if_neg hbreak]
          exact Nat.le_of_eq (congrArg (fun p => p.2.length) hnone)

/-- A text in double quotes with shorter escapes; `whole` writes line breaks as such, each behind an
empty line. -/
def shortEscapes (indent : Nat) (whole : Bool) (t : Text) : Text :=
  match t with
  | [] => []
  | [u] => [u]
  | u :: v :: r =>
    if u = 32 ∧ v = unit '\\' ∧ r.head? = some (unit 'n') then
      unit '\\' :: 32 :: shortEscapes indent whole (v :: r)
    else if u = unit '\\' then
      if v = unit 'u' then shortEscape (r.take 4) ++ shortEscapes indent whole (r.drop 4)
      else if v = unit 'n' ∧ whole ∧ r.head? ≠ some (unit '"') then
        let space : Text := if (escapedBreaks r).2.head? = some 32 then "\\" else []
        List.replicate ((escapedBreaks r).1 + 2) lineFeed ++ indentation indent ++ space ++
          shortEscapes indent whole (escapedBreaks r).2
      else u :: v :: shortEscapes indent whole r
    else u :: shortEscapes indent whole (v :: r)
termination_by t.length
decreasing_by
  all_goals simp_wf
  all_goals first | omega | (have h := length_escapedBreaks r; omega)

/-- A text in double quotes. -/
def doubleQuoted (pen : Pen) (t : Text) : Text :=
  let quoted := Json.quote t
  let written := shortEscapes pen.indent (!pen.inKey && 40 ≤ quoted.length) quoted
  if pen.inKey then written else broken true pen.indent pen.used written

/-- A text with an empty line for each run of line breaks, and the indentation behind it. -/
def spreadBreaks (indent : Nat) : Text → Text
  | [] => []
  | [u] => if u = lineFeed then u :: lineFeed :: indentation indent else [u]
  | u :: v :: r =>
    if u = lineFeed ∧ v ≠ lineFeed then
      u :: lineFeed :: indentation indent ++ spreadBreaks indent (v :: r)
    else u :: spreadBreaks indent (v :: r)

/-- Whether two units that satisfy conditions stand side by side. -/
def hasPair (p q : CodeUnit → Bool) (t : Text) : Bool := (t.zip (t.drop 1)).any fun (u, v) => p u && q v

/-- A text in single quotes, or in double ones if white space around a line break would be lost. -/
def singleQuoted (pen : Pen) (t : Text) : Text :=
  if (pen.inKey && t.contains lineFeed) || hasPair isBlank (· == lineFeed) t ||
      hasPair (· == lineFeed) isBlank t then doubleQuoted pen t
  else
    let doubled := Text.replaceUnit (unit '\'') "''" t
    let written : Text := "'" ++ spreadBreaks pen.indent doubled ++ "'"
    if pen.inKey then written else broken false pen.indent pen.used written

/-- A text in quotes: in single ones if it has double quotes and no single ones. -/
def quotedText (pen : Pen) (t : Text) : Text :=
  if t.contains (unit '"') && !t.contains (unit '\'') then singleQuoted pen t else doubleQuoted pen t

/-- Whether a text cannot be written without quotes in brackets. -/
def needsQuotes (t : Text) : Bool :=
  let isMark (u : CodeUnit) : Bool := u == unit '?' || u == unit '-'
  t.any isFlowIndicator ||
    (t.head?.map fun u => u == lineFeed || isBlank u || ("#&*!|>'\"%@`" : Text).contains u).getD
      false ||
    ((t.head?.map isMark).getD false && ((t.drop 1).head?.map isBlank).getD true) ||
    hasPair (fun u => u == lineFeed || u == unit ':') isBlank t || hasPair isBlank (· == lineFeed) t ||
    hasPair (fun u => u == lineFeed || isBlank u) (· == unit '#') t ||
    (t.getLast?.map fun u =>
      u == lineFeed || isBlank u || u == unit ':' || u == unit '-').getD false

/-- Whether a text would be read as something other than itself. -/
def isOtherValue (version : Version) (t : Text) : Bool :=
  (Scalar.rules version).any fun rule => (rule.read? t).isSome

/-- A text without quotes if that is possible; `checked` asks that it is not read as something
else. -/
def plainWritten (version : Version) (checked : Bool) (pen : Pen) (t : Text) : Text :=
  if (pen.inKey && t.contains lineFeed) || needsQuotes t then quotedText pen t
  else
    let written := spreadBreaks pen.indent t
    if checked && isOtherValue version written then quotedText pen t
    else if pen.inKey then written
    else broken false pen.indent pen.used written

/-- Whether a text has control characters, or surrogates without a partner. -/
def hasControls (t : Text) : Bool :=
  t.points.any fun p =>
    (p < 32 && p != 9 && p != 10) || (127 ≤ p && p ≤ 159) || (0xD800 ≤ p && p ≤ 0xDFFF)

/-- A text in the style in which it was found. -/
def textWritten (version : Version) (checked : Bool) (style : ScalarStyle) (pen : Pen) (t : Text) :
    Text :=
  if hasControls t then doubleQuoted pen t
  else
    match style with
    | .plain => plainWritten version checked pen t
    | .singleQuoted => singleQuoted pen t
    | .doubleQuoted => doubleQuoted pen t
    | .literal => quotedText pen t
    | .folded => quotedText pen t

/-- The numeral of a number, with its zeros behind the point. -/
def numeral (places : Nat) (x : Number) : Text :=
  match x with
  | .nan => ".nan"
  | .infinite negative => if negative then "-.inf" else ".inf"
  | .finite negative 0 _ => padZeros (if negative then "-0" else "0")
  | x => padZeros x.render
where
  /-- A numeral without exponent with at least so many places. -/
  padZeros (t : Text) : Text :=
    if places = 0 || t.contains (unit 'e') then t
    else
      match Scalar.splitAt? (· == unit '.') t with
      | some (_, fraction) => t ++ List.replicate (places - fraction.length) (unit '0')
      | none => t ++ "." ++ List.replicate places (unit '0')

/-- The numeral of a whole number in a base behind a mark. -/
def basedNumeral (mark : Text) (base : Nat) (x : Number) : Text :=
  if x.isInteger then
    (if x.isNonNegative then "" else "-") ++ mark ++ x.renderInBase base
  else numeral 0 x

/-- A text without six zeros and the digits behind them at its end. -/
def withoutTail (t : Text) : Text :=
  match t with
  | [] => []
  | u :: r =>
    if (Text.after? "000000" (u :: r)).isSome && Scalar.areDigits (u :: r) then []
    else u :: withoutTail r

/-- The numeral of a number in base 60, with up to three places. -/
def sexagesimalNumeral (x : Number) : Text :=
  match x with
  | .finite negative m e =>
    let (num, den) := Number.ratio m e
    let minutes := num / (60 * den)
    let part (x : Number) : Text :=
      let t := x.render
      List.replicate (2 - t.length) (unit '0') ++ t
    let seconds := part (Number.remainder (.finite false m e) 60)
    let parts : List Text :=
      if minutes < 60 then [part (.ofNat minutes), seconds]
      else [part (.ofNat (minutes / 60)), part (.ofNat (minutes % 60)), seconds]
    (if negative && m != 0 then "-" else "") ++ withoutTail (Text.joinWith ":" parts)
  | x => numeral 0 x

/-- A number in its style. -/
def numberWritten (version : Version) (reading : Reading) (x : Number) : Text :=
  match reading.style with
  | .decimal => numeral reading.places x
  | .binary => basedNumeral "0b" 2 x
  | .octal => basedNumeral (if version = .older then "0" else "0o") 8 x
  | .hexadecimal => basedNumeral "0x" 16 x
  | .exponent =>
    match x with
    | .finite _ _ _ => x.renderWithExponent
    | x => numeral 0 x
  | .sexagesimal => sexagesimalNumeral x

/-- A moment without what is zero in it. -/
def momentWritten (m : Calendar.Moment) : Text :=
  let t := Calendar.isoText m
  let drop (n : Nat) : Text := t.take (t.length - n)
  if (Text.after? "T00:00:00.000Z" (t.drop (t.length - 14))).isSome then drop 14
  else if (Text.after? ".000Z" (t.drop (t.length - 5))).isSome then drop 5
  else t

/-- The rows of a text of some width. -/
def rows (width : Nat) : Nat → Text → List Text
  | 0, _ => []
  | fuel + 1, t => if t.isEmpty then [] else t.take width :: rows width fuel (t.drop width)

/-- Bytes as text, in rows where the style has lines. -/
def bytesWritten (version : Version) (style : ScalarStyle) (pen : Pen) (bytes : List UInt8) : Text :=
  let t := Base64.encode bytes
  let width := max (lineWidth - pen.indent) leastWidth
  let rowed : Text :=
    match style with
    | .doubleQuoted => t
    | .literal => Text.joinWith [lineFeed] (rows width (t.length + 1) t)
    | _ => Text.joinWith [32] (rows width (t.length + 1) t)
  textWritten version false style pen rowed

/-- The names of tags of collections that a version knows from the beginning. -/
def collectionTags (version : Version) : List Text :=
  [listTag, mapTag] ++
    if version = .older then
      ["omap", "pairs", "set"].map fun (t : String) => standardTag ++ Text.ofString t
    else []

/-- A text under a tag that asks for something else. -/
def mismatched (tag : ScalarTag) (t : Text) : Option Text :=
  match tag with
  | .null => some "null"
  | .bool => some (if t.isEmpty then "false" else "true")
  | .int | .float =>
    match Number.ofNumeral? t with
    | some (.finite _ _ _) => some (Json.quote t)
    | some x => some (numeral 0 x)
    | none => some ".nan"
  | .merge => some Scalar.mergeKey
  | _ => none

/-- The text of a scalar without its properties. -/
def scalarWritten (version : Version) (pen : Pen) (info : NodeInfo) (content : ScalarContent) : Text :=
  match content.reading.value with
  | .null => content.text
  | .bool _ => content.text
  | .number x => numberWritten version content.reading x
  | .merge => Scalar.mergeKey
  | .moment m => momentWritten m
  | .bytes bytes => bytesWritten version content.style pen bytes
  | .text t =>
    let tag := info.tag.bind ScalarTag.ofName?
    match tag.bind fun tag => mismatched tag t with
    | some written => written
    | none =>
      if tag.isNone && version = .older && t = Scalar.mergeKey then t
      else
        let checked := !((info.tag.map (collectionTags version).contains).getD false)
        textWritten version checked content.style pen t

/-! ## Nodes -/

/-- A writing that knows the names of the anchors that have been met. -/
abbrev Writing := StateT (List Text) (Except Error)

/-- Whether the name of an anchor may be written. -/
def isWritable (name : Text) : Bool :=
  !name.any fun u => u ≤ 0x19 || Text.isBlank u || isFlowIndicator u

/-- The properties of a node. -/
def propertiesText (scope : Handles) (info : NodeInfo) : Text :=
  Text.joinWith [32]
    ((info.anchor.map fun a => unit '&' :: a.name).toList ++ (info.tag.map (tagText scope)).toList)

/-- Notes that an anchor is met. -/
def meet (info : NodeInfo) : Writing Unit :=
  match info.anchor with
  | none => return ()
  | some a => if isWritable a.name then modify (a.name :: ·) else throw (.unwritable a.name)

/-- The pen behind properties. -/
def Pen.behind (pen : Pen) (properties : Text) : Pen :=
  if properties.isEmpty then pen
  else { pen with used := some (pen.used.getD 0 + properties.length + 1) }

/-- The pen behind a node, of which the properties have taken room in what follows. -/
def Pen.behindNode (scope : Handles) (pen : Pen) : Node → Pen
  | .alias _ _ _ => pen
  | .pair _ => pen
  | node => pen.behind (propertiesText scope node.info)

/-- Something behind its properties. -/
def withProperties (properties written : Text) : Text :=
  if properties.isEmpty then written else properties ++ 32 :: written

/-- What has been written of a collection in brackets: its lines, and whether each has to have its
own. -/
structure Lines where
  lines : List Text := []
  apart : Bool := false

/-- The lines in front of an item: an empty one, and its comment. -/
def Lines.before (indent : Nat) (notes : Notes) : List Text :=
  (if notes.spaced then [[]] else []) ++
    if notes.before.isEmpty then []
    else [Text.trimStart (indentedComment indent (commentText notes.before))]

/-- The lines with an item behind what is in front of it. -/
def Lines.add (s : Lines) (before : List Text) (apart isLast : Bool) (indent : Nat) (comment : Text)
    (written : Text) : Lines :=
  let line := if isLast then written else written ++ ","
  let line :=
    if comment.isEmpty then line else line ++ commentBehind line indent (commentText comment)
  ⟨s.lines ++ before ++ [line],
    s.apart || apart || !before.isEmpty || !comment.isEmpty || written.contains lineFeed⟩

/-- The lines in brackets. -/
def Lines.inBrackets (s : Lines) (indent : Nat) (opening closing : Text) : Text :=
  if s.lines.isEmpty then opening ++ closing
  else
    let length := s.lines.foldl (fun n line => n + line.length + 2) 2
    if s.apart || lineWidth < length then
      opening ++ (s.lines.flatMap fun line =>
        lineFeed :: (if line.isEmpty then [] else indentation (indent + 2) ++ line)) ++
        lineFeed :: indentation indent ++ closing
    else opening ++ 32 :: Text.joinWith [32] s.lines ++ 32 :: closing

/-- Whether a key is marked as one because it does not fit into the line of its value. -/
def isMarkedKey : Node → Bool
  | .scalar _ content => content.style == .literal || content.style == .folded
  | _ => true

/-- Whether a collection has nothing but keys. -/
def haveNoValues (entries : List Entry) : Bool := entries.all fun e => e.value?.isNone

/-- What stands between the colon and a value: the comment of the value, or a line break in front of a
collection with lines. -/
def valueGap (indent : Nat) (keyComment : Text) (marked : Bool) (value : Node) (written : Text) :
    Text :=
  let notes := value.notes
  if !keyComment.isEmpty || notes.spaced || !notes.before.isEmpty then
    (if notes.spaced then [lineFeed] else []) ++
      (if notes.before.isEmpty then []
        else lineFeed :: indentedComment indent (commentText notes.before)) ++
      lineFeed :: indentation indent
  else if !marked && value.isCollection then
    if written.contains lineFeed then lineFeed :: indentation indent else [32]
  else if written.isEmpty || written.head? = some lineFeed then []
  else [32]

mutual

/-- A node as it is written. -/
def Node.write (version : Version) (scope : Handles) (pen : Pen) (node : Node) : Writing Text :=
  match node with
  | .alias name _ _ => do
    if !isWritable name then throw (.unwritable name)
    if !(← get).contains name then throw (.unresolvedInKey name)
    return unit '*' :: name
  | .scalar info content => do
    meet info
    let properties := propertiesText scope info
    return withProperties properties (scalarWritten version (pen.behind properties) info content)
  | .list info _ items => do
    meet info
    let properties := propertiesText scope info
    let pen := pen.behind properties
    let s ← writeItems version scope pen.indent
      { pen with indent := pen.indent + 4 } {} items
    return withProperties properties (s.inBrackets pen.indent "[" "]")
  | .map info isSet entries => do
    meet info
    let properties := propertiesText scope info
    let pen := pen.behind properties
    let bare := isSet || haveNoValues entries
    let s ← writeEntries version scope pen.indent
      { pen with indent := pen.indent + 2, bareKeys := pen.bareKeys || bare } {} entries
    return withProperties properties (s.inBrackets pen.indent "\x7b" "\x7d")
  | .pair entry => do
    let (written, _, _, _) ← Entry.write version scope pen entry
    return written

/-- The items of a list. -/
def writeItems (version : Version) (scope : Handles) (outer : Nat) (pen : Pen) (s : Lines) :
    List Node → Writing Lines
  | [] => return s
  | x :: xs => do
    match x with
    | .pair entry => do
      let (written, before, behind, apart) ← Entry.write version scope pen entry
      let s := s.add (Lines.before outer before) apart xs.isEmpty pen.indent behind written
      writeItems version scope outer pen s xs
    | x => do
      let written ← x.write version scope pen
      let s :=
        s.add (Lines.before outer x.notes) false xs.isEmpty pen.indent x.notes.behind written
      writeItems version scope outer (pen.behindNode scope x) s xs

/-- The entries of a map. -/
def writeEntries (version : Version) (scope : Handles) (outer : Nat) (pen : Pen) (s : Lines) :
    List Entry → Writing Lines
  | [] => return s
  | e :: es => do
    let (written, before, behind, apart) ← Entry.write version scope pen e
    let s := s.add (Lines.before outer before) apart es.isEmpty pen.indent behind written
    writeEntries version scope outer pen s es

/-- An entry as it is written, what stands in front of it, the comment behind it, and whether it has
to have a line of its own. -/
def Entry.write (version : Version) (scope : Handles) (pen : Pen) (entry : Entry) :
    Writing (Text × Notes × Text × Bool) :=
  let alone (key : Node) (written : Text) : Text :=
    if written.isEmpty then "?" else if isMarkedKey key then "? " ++ written else written
  match entry with
  | .lone key => do
    let inner : Pen :=
      { pen with
        bareKeys := false, inKey := !isMarkedKey key && !pen.bareKeys, indent := pen.indent + 2 }
    let written ← key.write version scope inner
    return (alone key written, key.notes, key.notes.behind, !key.notes.behind.isEmpty)
  | .full key value => do
    let inner : Pen :=
      { pen with
        bareKeys := false, inKey := !isMarkedKey key && !pen.bareKeys, indent := pen.indent + 2 }
    let marked := isMarkedKey key
    let comment := key.notes.behind
    let apart := !comment.isEmpty || !value.notes.before.isEmpty
    let written ← key.write version scope inner
    if pen.bareKeys then return (alone key written, key.notes, value.notes.behind, apart)
    else
      let behind (t : Text) : Text :=
        if comment.isEmpty then t else t ++ commentBehind t inner.indent (commentText comment)
      let written :=
        if marked then "? " ++ behind written ++ lineFeed :: indentation pen.indent ++ ":"
        else behind (written ++ ":")
      let isScalar : Bool :=
        match value with
        | .scalar _ _ => true
        | _ => false
      let inner := { inner.behindNode scope key with inKey := false }
      let inner :=
        if !marked && comment.isEmpty && isScalar then { inner with used := some (written.length + 1) }
        else inner
      let said ← value.write version scope inner
      return (written ++ valueGap inner.indent comment marked value said ++ said, key.notes,
        value.notes.behind, apart)

end

/-- A collection or an alias as the key that it makes, behind anchors of some names. -/
def Node.keyText (version : Version) (scope : Handles) (names : List Text) (node : Node) :
    Except Error Text :=
  let bare : Node :=
    match node with
    | .alias name place notes => .alias name place notes
    | node => node.mapInfo fun info => { info with tag := none, anchor := none }
  (bare.write version scope {} names).map Prod.fst

end ChatRelay.Yaml
