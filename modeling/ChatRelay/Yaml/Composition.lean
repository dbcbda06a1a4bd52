import ChatRelay.Yaml.BlockScalar
import ChatRelay.Yaml.Lead
import ChatRelay.Yaml.Node
import ChatRelay.Yaml.Tag

/-!
# From outlines to nodes

An outline becomes a node if everything in it may stand where it does: keys of one map are indented
alike, fit in a line and differ, values have their indicators, brackets are closed and hold no
collections without brackets. `nodeOf?` finds the node of an outline and the place where it ends, or
nothing. The nodes within a collection are found by a function that is passed on, so the rules of
each kind of collection stand on their own.
-/

namespace ChatRelay.Yaml

/-- What holds throughout a document: its version, and what its handles stand for. -/
structure Scope where
  version : Version := .current
  handles : Handles := defaultHandles

/-- A node and the place where it ends. -/
structure Composed where
  node : Node
  stop : Nat

/-- How the nodes within a collection are found: as a key or not, and behind their lead. -/
abbrev Composer := (isKey : Bool) → Outline → Lead → Option Composed

/-! ## Scalars -/

/-- The properties of a node behind its lead, and the comment in front of it. A tag with an empty
name is none. -/
def infoOf? (scope : Scope) (lead : Lead) : Option NodeInfo := do
  let tag ←
    match lead.tag with
    | none => some none
    | some x => (tagName? scope.handles x.text).map nonEmpty?
  let anchor ←
    match lead.anchor with
    | none => some none
    | some x => if x.said.isEmpty then none else some (some ⟨x.said, x.offset⟩)
  return ⟨anchor, tag, { spaced := lead.spaced, before := lead.comment }⟩

/-- The scalar of a text. -/
def scalarOf? (scope : Scope) (isKey : Bool) (info : NodeInfo) (style : ScalarStyle) (text : Text) :
    Option Node :=
  let reading? :=
    match info.tag with
    | none =>
      some (if style = ScalarStyle.plain then Scalar.ofPlain scope.version isKey text else .ofText text)
    | some tag =>
      if tag = nonSpecificTag then some (.ofText text) else Scalar.ofTag? scope.version tag text
  reading?.map fun reading => .scalar info ⟨text, reading, style⟩

/-- The place of a node that is not written, behind some lexemes that end at a place: behind the last
indicator or property, and the spaces there. -/
def emptyPlace (offset : Nat) (before : List Lexeme) : Nat :=
  let silent := before.reverse.takeWhile Lexeme.isSilent
  let length (xs : List Lexeme) : Nat := (xs.flatMap (·.text)).length
  let spaces := silent.reverse.takeWhile (·.kind == .space)
  offset - length silent +
    (if silent.length = before.length then 0 else length spaces)

/-- A node that is not written. Comments in front of it count as standing behind it. -/
def emptyNode? (scope : Scope) (isKey : Bool) (offset : Nat) (before : List Lexeme) (lead : Lead) :
    Option Composed := do
  let info ← infoOf? scope lead
  let notes : Notes := { info.notes with before := [], behind := info.notes.before }
  let node ← scalarOf? scope isKey { info with notes := notes } .plain []
  return ⟨node, if lead.comment.isEmpty then emptyPlace offset before else lead.stop⟩

/-- The value of a scalar that is no block scalar, and how it is written. -/
def inlineText? (head : Lexeme) : Option (Text × ScalarStyle) :=
  match head.kind with
  | .singleQuoted => (singleQuotedText? head.text).map (·, .singleQuoted)
  | .doubleQuoted => (doubleQuotedText? head.text).map (·, .doubleQuoted)
  | _ => (plainText? head.text).map (·, .plain)

/-- The node of a scalar or an alias. -/
def inlineNode? (scope : Scope) (isKey : Bool) (head : Lexeme) (tail : List Lexeme) (lead : Lead) :
    Option Composed := do
  let (comment, stop) ← trailing? true head.stop tail
  if head.kind = .alias then
    if lead.hasProperties || head.said.isEmpty then none
    else
      let notes : Notes := { spaced := lead.spaced, before := lead.comment, behind := comment }
      return ⟨.alias head.said head.offset notes, stop⟩
  else
    let info ← infoOf? scope lead
    let (text, style) ← inlineText? head
    let notes : Notes :=
      if head.text.isEmpty && !lead.comment.isEmpty then
        { info.notes with before := [], behind := lead.comment }
      else { info.notes with behind := comment }
    let node ← scalarOf? scope isKey { info with notes := notes } style text
    return ⟨node, stop⟩

/-- The node of a block scalar. -/
def blockNode? (scope : Scope) (atRoot : Bool) (offset indent : Nat) (header : List Lexeme)
    (text : Text) (lead : Lead) : Option Composed := do
  let info ← infoOf? scope lead
  let said ← BlockHeader.of? header
  let value ← blockText? said indent atRoot text
  let notes : Notes := { info.notes with behind := said.comment }
  let style := if said.folded then ScalarStyle.folded else .literal
  let node ← scalarOf? scope false { info with notes := notes } style value
  return ⟨node, offset + said.length + text.length⟩

/-! ## Maps and lists without brackets -/

/-- Whether a node takes more than a line. -/
def takesLines : Nat → Outline → Bool
  | 0, _ => true
  | fuel + 1, outline =>
    match outline with
    | .scalar head tail => head.text.contains lineFeed || Lexeme.anyOf .lineBreak tail
    | .flow _ _ items _ =>
      items.any fun item =>
        Lexeme.anyOf .lineBreak item.start ||
          (item.separator.map (Lexeme.anyOf .lineBreak)).getD false ||
          (item.key.map (takesLines fuel)).getD false || (item.value.map (takesLines fuel)).getD false
    | _ => true

/-- The greatest number of characters between the beginning of a key and its colon. -/
def longestKey : Nat := 1024

/-- Whether a key begins too far before its colon. -/
def isTooLong (lead : Lead) (colon : Lexeme) : Bool := lead.begins + longestKey < colon.offset

/-- Whether a key is not among those of some entries. -/
def isNew (key : Node) (entries : List Entry) : Bool := entries.all fun e => !e.key.sameKey key

/-- The entries of a map that have been read, the place behind the last one, the place behind a
comment that belongs to no entry, and such comments. -/
structure MapSoFar where
  entries : List Entry := []
  stop : Nat
  commentStop : Option Nat := none
  comment : Text := []

/-- Whether a key that is not marked may stand in a map with some indentation. -/
def isImplicitKey (indent : Nat) : Option Outline → Bool
  | none => true
  | some (.list _ _ _) => false
  | some key => key.indent == indent

/-- Reads an item of a map. -/
def mapItem? (scope : Scope) (fuel : Nat) (compose : Composer) (indent : Nat) (s : MapSoFar)
    (item : OutlineItem Outline) : Option MapSoFar := do
  let separator := item.separator.getD []
  let lead ← Lead.of?
    { mark := .keyMark, next := .of item.key separator, offset := s.stop, indent := indent,
      atLineStart := true } item.start
  let implicit := lead.mark.isNone
  if !(match lead.mark with
      | some mark => mark.indent == indent
      | none => isImplicitKey indent item.key) then none
  else if implicit && !lead.hasProperties && item.separator.isNone then
    return { s with
      commentStop := some lead.stop
      comment := if lead.comment.isEmpty then s.comment else addLine lead.comment s.comment }
  else if implicit && (lead.breakBehind.isSome || (item.key.map (takesLines fuel)).getD false) then
    none
  else
    let key ←
      match item.key with
      | some key => compose true key lead
      | none => emptyNode? scope true lead.stop item.start lead
    let isBlock : Bool :=
      match item.key with
      | some (.block _ _ _ _) => true
      | some _ => false
      | none => true
    let valueLead ← Lead.of?
      { mark := .valueMark, next := .of item.value [], offset := key.stop, indent := indent,
        atLineStart := isBlock } separator
    if !isNew key.node s.entries then none
    else
      match valueLead.mark with
      | some colon =>
        let nested : Bool :=
          match item.value with
          | some (.map _ _ _) => !valueLead.broken
          | _ => false
        if implicit && (nested || isTooLong lead colon) then none
        else
          let value ←
            match item.value with
            | some value => compose false value valueLead
            | none => emptyNode? scope false valueLead.stop separator valueLead
          return { s with
            entries := s.entries ++ [.full key.node value.node], stop := value.stop }
      | none =>
        if implicit then none
        else
          return { s with
            entries := s.entries ++ [.lone (key.node.withComment valueLead.comment)]
            stop := valueLead.stop }

/-- The map without brackets that some items are. A comment that belongs to no entry has to be the
last thing in it. -/
def mapOf? (scope : Scope) (fuel : Nat) (compose : Composer) (offset indent : Nat)
    (items : List (OutlineItem Outline)) : Option MapSoFar := do
  let s ← items.foldlM (mapItem? scope fuel compose indent) { stop := offset }
  let misplaced := (s.commentStop.map fun c => 0 < c && c < s.stop).getD false
  if misplaced then none else return { s with commentStop := some (s.commentStop.getD s.stop) }

/-- The items of a list that have been read, with the same places and comments as for a map. -/
structure ListSoFar where
  items : List Node := []
  stop : Nat
  commentStop : Option Nat := none
  comment : Text := []

/-- Reads an item of a list. -/
def listItem? (scope : Scope) (compose : Composer) (indent : Nat) (s : ListSoFar)
    (item : OutlineItem Outline) : Option ListSoFar := do
  let lead ← Lead.of?
    { mark := .entryMark, next := .of item.value [], offset := s.stop, indent := indent,
      atLineStart := true } item.start
  if lead.mark.isNone then
    if lead.hasProperties || item.value.isSome then none
    else
      return { s with
        commentStop := some lead.stop
        comment := if lead.comment.isEmpty then s.comment else lead.comment }
  else
    let node ←
      match item.value with
      | some value => compose false value lead
      | none => emptyNode? scope false lead.stop item.start lead
    return { s with items := s.items ++ [node.node], stop := node.stop }

/-- The list without brackets that some items are. -/
def listOf? (scope : Scope) (compose : Composer) (offset indent : Nat)
    (items : List (OutlineItem Outline)) : Option ListSoFar :=
  items.foldlM (listItem? scope compose indent) { stop := offset }

/-- Whether the properties of a list without brackets are on a line of their own. -/
def areApart (lead : Lead) : Bool :=
  let last := [lead.anchor, lead.tag].filterMap fun x => x.map (·.offset)
  last.all fun offset => (lead.breakBehind.map fun x => decide (offset ≤ x.offset)).getD false

/-! ## Brackets -/

/-- The content of brackets that has been read: entries of a map, or items of a list, the place
behind the last one, and comments that belong to none. -/
structure FlowSoFar where
  entries : List Entry := []
  items : List Node := []
  stop : Nat
  comment : Text := []

/-- Adds a comment behind the last item. -/
def FlowSoFar.withComment (comment : Text) (s : FlowSoFar) : FlowSoFar :=
  { s with
    items := modifyLast (Node.withComment comment) s.items
    entries := modifyLast (fun e =>
      match e with
      | .lone key => .lone (key.withComment comment)
      | .full key value => .full key (value.withComment comment)) s.entries }

/-- The comment behind the comma that ends the item before. -/
def commentOfPrevious (start : List Lexeme) : Text :=
  match start.dropWhile fun x => x.kind == .comma || x.kind == .space with
  | x :: _ => if x.kind = .comment then x.said else []
  | [] => []

/-- Whether an item of a list in brackets that is a pair has its key in one line with its colon, and
not too far in front of it. -/
def isNearColon (lead : Lead) (separator : List Lexeme) (colon : Lexeme) : Bool :=
  !Lexeme.anyOf .lineBreak (separator.takeWhile (·.offset < colon.offset)) && !isTooLong lead colon

/-- Whether a value may stand in brackets. -/
def fitsBrackets (value : Option Outline) : Bool := !(value.map Outline.isBlock).getD false

/-- Reads an entry in brackets; in a list it is a map of its own. -/
def flowEntry? (scope : Scope) (compose : Composer) (isMap : Bool) (indent : Nat) (s : FlowSoFar)
    (lead : Lead) (item : OutlineItem Outline) : Option FlowSoFar := do
  let separator := item.separator.getD []
  let key ←
    match item.key with
    | some key => compose true key lead
    | none => emptyNode? scope true lead.stop item.start lead
  let valueLead ← Lead.of?
    { mark := .valueMark, inBrackets := true, next := .of item.value [], offset := key.stop,
      indent := indent, atLineStart := false } separator
  let sound : Bool :=
    match valueLead.mark with
    | some colon => isMap || lead.mark.isSome || isNearColon lead separator colon
    | none => item.value.isNone
  if !sound || !fitsBrackets item.key || !fitsBrackets item.value ||
      (isMap && !isNew key.node s.entries) then none
  else
    let value ←
      match item.value, valueLead.mark with
      | some value, _ => (compose false value valueLead).map some
      | none, some _ => (emptyNode? scope false valueLead.stop separator valueLead).map some
      | none, none => some none
    let keyNode := if value.isSome then key.node else key.node.withComment valueLead.comment
    let entry := Entry.of keyNode (value.map (·.node))
    let stop := (value.map (·.stop)).getD valueLead.stop
    return if isMap then { s with entries := s.entries ++ [entry], stop := stop }
      else { s with items := s.items ++ [.map {} false [entry]], stop := stop }

/-- Reads an item in brackets. -/
def flowItem? (scope : Scope) (fuel : Nat) (compose : Composer) (isMap : Bool) (indent count : Nat)
    (s : FlowSoFar) (place : Nat × OutlineItem Outline) : Option FlowSoFar := do
  let (i, item) := place
  let separator := item.separator.getD []
  let lead ← Lead.of?
    { mark := .keyMark, inBrackets := true, next := .of item.key separator, offset := s.stop,
      indent := indent, atLineStart := false } item.start
  let isLone := item.separator.isNone && lead.mark.isNone
  if isLone && !lead.hasProperties && item.value.isNone then
    if (i = 0 && lead.comma.isSome) || i + 1 < count then none
    else
      return { s with
        comment := if lead.comment.isEmpty then s.comment else addLine lead.comment s.comment
        stop := lead.stop }
  else if lead.mark.isNone && !isMap && (item.key.map (takesLines fuel)).getD false then none
  else if lead.comma.isSome == (i == 0) then none
  else
    let previous := if i = 0 || lead.comment.isEmpty then [] else commentOfPrevious item.start
    let s := if previous.isEmpty then s else s.withComment previous
    let lead :=
      if previous.isEmpty then lead
      else { lead with comment := lead.comment.drop (previous.length + 1) }
    if !isMap && isLone then
      let node ←
        match item.value with
        | some value => compose false value lead
        | none => emptyNode? scope false lead.stop [] lead
      if !fitsBrackets item.value then none
      else return { s with items := s.items ++ [node.node], stop := node.stop }
    else flowEntry? scope compose isMap indent s lead item

/-- The content of brackets. -/
def flowOf? (scope : Scope) (fuel : Nat) (compose : Composer) (opening : Lexeme) (indent : Nat)
    (items : List (OutlineItem Outline)) (tail : List Lexeme) : Option FlowSoFar := do
  let isMap := opening.kind = .mapOpen
  let s ← (items.zipIdx.map fun (item, i) => (i, item)).foldlM
    (flowItem? scope fuel compose isMap indent items.length) { stop := opening.stop }
  match tail with
  | [] => none
  | close :: behind =>
    if close.kind ≠ (if isMap then .mapClose else .listClose) then none
    else
      let (comment, stop) ← trailing? true close.stop behind
      return { s with
        stop := stop, comment := if comment.isEmpty then s.comment else addLine comment s.comment }

/-! ## Collections with tags -/

/-- Whether an entry of a set has no value. -/
def isSetEntry : Entry → Bool
  | .lone _ => true
  | .full _ (.scalar info content) =>
    content.reading.value = .null && info.notes.before.isEmpty && info.notes.behind.isEmpty &&
      info.tag.isNone
  | .full _ _ => false

/-- The pair that an item of a list of pairs is: the only entry of a map, or a key alone. -/
def pairOf? : Node → Option Entry
  | .map info _ [] =>
    some (.lone (.scalar { notes := { before := info.notes.before, behind := info.notes.behind } }
      ⟨"null", { value := .null }, .plain⟩))
  | .map info _ [entry] =>
    let before (key : Node) : Node :=
      if info.notes.before.isEmpty then key
      else
        key.mapNotes fun notes =>
          { notes with
            before :=
              if notes.before.isEmpty then info.notes.before
              else addLine notes.before info.notes.before }
    let behind (node : Node) : Node :=
      if info.notes.behind.isEmpty then node
      else
        node.mapNotes fun notes =>
          { notes with
            behind :=
              if notes.behind.isEmpty then info.notes.behind
              else addLine notes.behind info.notes.behind }
    match entry with
    | .lone key => some (.lone (behind (before key)))
    | .full key value => some (.full (before key) (behind value))
  | .map _ _ _ => none
  | node => some (.lone node)

/-- Whether two keys are one in a map whose order counts, where what is no number equals itself. -/
def sameOrderedKey (a b : Node) : Bool :=
  a.sameKey b ||
    match a, b with
    | .scalar _ x, .scalar _ y =>
      x.reading.value = .number .nan && y.reading.value = .number .nan
    | _, _ => false

/-- Whether no scalar is a key of two pairs. -/
def areDistinct : List Entry → Bool
  | [] => true
  | e :: es => es.all (fun f => !sameOrderedKey e.key f.key) && areDistinct es

/-- The list that some items are, with the tag that they have. -/
def listNode? (info : NodeInfo) (items : List Node) : Option Node :=
  match info.tag with
  | none => some (.list info false items)
  | some tag =>
    if tag = nonSpecificTag then some (.list { info with tag := some listTag } false items)
    else
      match CollectionTag.ofList? tag with
      | none => some (.list info false items)
      | some kind =>
        match items.mapM pairOf? with
        | none => none
        | some pairs =>
          if kind = .orderedMap && !areDistinct pairs then none
          else some (.list info (kind = .orderedMap) (pairs.map .pair))

/-- The map that some entries are, with the tag that they have. -/
def mapNode? (info : NodeInfo) (entries : List Entry) : Option Node :=
  match info.tag with
  | none => some (.map info false entries)
  | some tag =>
    if tag = nonSpecificTag then some (.map { info with tag := some mapTag } false entries)
    else if (CollectionTag.ofMap? tag).isNone then some (.map info false entries)
    else if entries.all isSetEntry then some (.map info true entries)
    else none

/-! ## Nodes -/

/-- The node of an outline behind its lead. The fuel is more than how deep nodes can be in each
other. -/
def nodeOf? (scope : Scope) : Nat → (atRoot isKey : Bool) → Outline → Lead → Option Composed
  | 0, _, _, _, _ => none
  | fuel + 1, atRoot, isKey, outline, lead =>
    let compose : Composer := nodeOf? scope fuel false
    let withBehind (comment : Text) : Option NodeInfo :=
      (infoOf? scope lead).map fun info =>
        { info with notes := { info.notes with behind := comment } }
    match outline with
    | .scalar head tail => inlineNode? scope isKey head tail lead
    | .block offset indent header text => blockNode? scope atRoot offset indent header text lead
    | .map offset indent items => do
      let s ← mapOf? scope fuel compose offset indent items
      let node ← mapNode? (← withBehind s.comment) s.entries
      return ⟨node, s.commentStop.getD s.stop⟩
    | .list offset indent items => do
      let s ← listOf? scope compose offset indent items
      let node ← listNode? (← withBehind s.comment) s.items
      if areApart lead then return ⟨node, s.commentStop.getD s.stop⟩ else none
    | .flow opening indent items tail => do
      let s ← flowOf? scope fuel compose opening indent items tail
      let info ← withBehind s.comment
      let node ←
        if opening.kind = .mapOpen then mapNode? info s.entries else listNode? info s.items
      return ⟨node, s.stop⟩

/-- The node of a document, and whether a marker begins it. -/
def documentNode? (scope : Scope) (fuel : Nat) (d : DocumentOutline) : Option (Node × Bool) := do
  let lead ← Lead.of?
    { mark := .documentMark, next := .of d.value d.tail, offset := d.offset, indent := 0,
      atLineStart := true } d.start
  let composed ←
    match d.value with
    | some value => nodeOf? scope fuel true false value lead
    | none => emptyNode? scope false lead.stop d.start lead
  let sameLine := lead.mark.isSome && (d.value.map Outline.isBlock).getD false && !lead.broken
  let _ ← trailing? false composed.stop d.tail
  if sameLine then none else return (composed.node, lead.mark.isSome)

end ChatRelay.Yaml
