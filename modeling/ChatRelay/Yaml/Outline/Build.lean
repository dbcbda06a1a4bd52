import ChatRelay.Yaml.Outline

/-!
# Building outlines

Lexemes are offered one after another to the innermost node that is open. The node takes the lexeme,
or opens a node for it, or closes; then the lexeme is offered again to what is open now. A node that
closes becomes a part of the one around it.

Two things are decided late. A scalar or brackets turn out to be the first key of a map when a colon
follows; the map then takes the place of the key and what belongs to the key from the lexemes before
it (`splitProperties`). And comments behind the last item of a collection move out of it when it
closes (`shed`).
-/

namespace ChatRelay.Yaml

/-- A part of a text that is not complete. -/
inductive Opened where
  | document (outline : DocumentOutline)
  | ending (mark : Lexeme) (tail : List Lexeme)
  | node (outline : Outline)

/-- The parts that are open, the innermost first, and the sections that are complete, the last
first. `onKeyLine` tells whether a key stands in the current line; `sound` whether every lexeme
found a place. -/
structure Build where
  onKeyLine : Bool := false
  opened : List Opened := []
  sections : List Section := []
  sound : Bool := true

/-- What becomes of a lexeme that is offered: it is dealt with, or has to be offered again. -/
inductive Offer where
  | taken (b : Build)
  | again (b : Build)

/-! ## Properties of a first key -/

/-- Whether what belongs to a key cannot reach over a lexeme. -/
def endsProperties (x : Lexeme) : Bool :=
  x.kind == .documentMark || x.kind == .keyMark || x.kind == .valueMark || x.kind == .entryMark ||
    x.kind == .lineBreak

/-- What is left of the lexemes before a key, and those that belong to the key: the ones behind the
last indicator or line break, without the white space there. -/
def splitProperties (before : List Lexeme) : List Lexeme × List Lexeme :=
  let own := (before.reverse.takeWhile fun x => !endsProperties x).reverse
  let others := before.take (before.length - own.length)
  (others ++ own.takeWhile (·.kind == .space), own.dropWhile (·.kind == .space))

/-- Takes what belongs to a first key from what is open around it. -/
def Opened.splitProperties : Opened → List Lexeme × Opened
  | .document d =>
    let (start, own) := Yaml.splitProperties d.start
    (own, .document { d with start := start })
  | .node (.map offset indent items) =>
    match items.getLast? with
    | none => ([], .node (.map offset indent items))
    | some item =>
      match item.separator with
      | some separator =>
        let (others, own) := Yaml.splitProperties separator
        (own, .node (.map offset indent
          (modifyLast (fun item => { item with separator := some others }) items)))
      | none =>
        let (others, own) := Yaml.splitProperties item.start
        (own, .node (.map offset indent
          (modifyLast (fun item => { item with start := others }) items)))
  | .node (.list offset indent items) =>
    match items.getLast? with
    | none => ([], .node (.list offset indent items))
    | some item =>
      let (others, own) := Yaml.splitProperties item.start
      (own, .node (.list offset indent
        (modifyLast (fun item => { item with start := others }) items)))
  | opened => ([], opened)

/-! ## Closing -/

/-- The items of a list in brackets, of which those without a colon are no pairs. -/
def withoutLonePairs (items : List (OutlineItem Outline)) : List (OutlineItem Outline) :=
  items.map fun item =>
    match item.separator, item.value with
    | some separator, none =>
      if Lexeme.anyOf .keyMark item.start || Lexeme.anyOf .valueMark separator then item
      else
        match item.key with
        | some key =>
          if key.isInline then
            { item with key := none, separator := none, value := some (key.withTail separator) }
          else
            { item with
              start := item.start ++ separator, key := none, separator := none, value := some key }
        | none => { item with start := item.start ++ separator, separator := none }
    | _, _ => item

/-- Brackets with their items as they are meant. -/
def Outline.settled : Outline → Outline
  | .flow opening indent items tail =>
    .flow opening indent (if opening.kind == .listOpen then withoutLonePairs items else items) tail
  | outline => outline

/-- The indentation that counts for a node when it closes within another one: that of the other one
for a block scalar, none for brackets that are a whole document. -/
def Outline.within (parent : Opened) : Outline → Outline
  | .block offset _ header text =>
    let indent :=
      match parent with
      | .node outer => outer.indent
      | _ => 0
    .block offset indent header text
  | .flow opening indent items tail =>
    let indent :=
      match parent with
      | .document _ => 0
      | _ => indent
    .flow opening indent items tail
  | outline => outline

/-- Whether the last item of a collection holds nothing but white space and comments, none of which
is indented as much as the collection. -/
def isShed (indent : Nat) (item : OutlineItem Outline) : Bool :=
  item.separator.isNone && item.value.isNone && !item.start.isEmpty &&
    item.start.all Lexeme.isSilent &&
    (indent == 0 || item.start.all fun x => x.kind != .comment || x.indent < indent)

/-- A collection without the comments behind its last item, and these. -/
def Outline.shed (outline : Outline) : Outline × Option (List Lexeme) :=
  match outline with
  | .map offset indent items =>
    match items.getLast? with
    | some item =>
      if isShed indent item then (.map offset indent items.dropLast, some item.start)
      else (outline, none)
    | none => (outline, none)
  | .list offset indent items =>
    match items.getLast? with
    | some item =>
      if isShed indent item then (.list offset indent items.dropLast, some item.start)
      else (outline, none)
    | none => (outline, none)
  | outline => (outline, none)

/-- Items with comments that were shed by the value of the last one. -/
def afterShed (items : List (OutlineItem Outline)) (comments : Option (List Lexeme)) :
    List (OutlineItem Outline) :=
  match comments with
  | some start => items ++ [{ start := start }]
  | none => items

namespace Build

/-- A lexeme or a node stands where it cannot. -/
def fail (b : Build) : Build := { b with sound := false }

/-- Replaces the innermost part. -/
def setTop (b : Build) (top : Opened) : Build := { b with opened := top :: b.opened.tail }

/-- Opens a node. -/
def push (b : Build) (outline : Outline) : Build := { b with opened := .node outline :: b.opened }

/-- Makes a part that has been closed a part of what is open. What can hold no node closes first. -/
def attach : Nat → Opened → Build → Build
  | 0, _, b => b.fail
  | fuel + 1, closed, b =>
    match closed, b.opened with
    | .document d, [] => { b with sections := .document d :: b.sections }
    | .ending mark tail, [] => { b with sections := .ending mark tail :: b.sections }
    | .node _, [] => b.fail
    | .node outline, .document d :: _ =>
      let (outline, comments) := (outline.within (.document d)).settled.shed
      b.setTop (.document { d with value := some outline, tail := comments.getD d.tail })
    | .node outline, .node (.map offset indent items) :: _ =>
      let outline := (outline.within (.node (.map offset indent items))).settled
      match items.getLast? with
      | none => b.fail
      | some item =>
        if item.value.isSome then
          { b.setTop (.node (.map offset indent
              (items ++ [{ key := some outline, separator := some [] }]))) with onKeyLine := true }
        else if item.separator.isSome then
          let (outline, comments) := outline.shed
          b.setTop (.node (.map offset indent
            (afterShed (modifyLast (fun i => { i with value := some outline }) items) comments)))
        else
          { b.setTop (.node (.map offset indent
              (modifyLast (fun i => { i with key := some outline, separator := some [] }) items)))
            with onKeyLine := !item.explicit }
    | .node outline, .node (.list offset indent items) :: _ =>
      let outline := (outline.within (.node (.list offset indent items))).settled
      let (outline, comments) := outline.shed
      let filled := (items.getLast?.map fun i => i.value.isSome).getD true
      let items :=
        if filled then items ++ [{ value := some outline }]
        else modifyLast (fun i => { i with value := some outline }) items
      b.setTop (.node (.list offset indent (afterShed items comments)))
    | .node outline, .node (.flow opening indent items tail) :: _ =>
      let outline := (outline.within (.node (.flow opening indent items tail))).settled
      let items :=
        match items.getLast? with
        | none => items ++ [{ key := some outline, separator := some [] }]
        | some item =>
          if item.value.isSome then items ++ [{ key := some outline, separator := some [] }]
          else if item.separator.isSome then
            modifyLast (fun i => { i with value := some outline }) items
          else modifyLast (fun i => { i with key := some outline, separator := some [] }) items
      b.setTop (.node (.flow opening indent items tail))
    | closed, top :: below => attach fuel closed (attach fuel top { b with opened := below })

/-- Closes the innermost part. -/
def close (b : Build) : Build :=
  match b.opened with
  | [] => b.fail
  | top :: below => attach (below.length + 2) top { b with opened := below }

/-- Closes everything. -/
def closeAll : Nat → Build → Build
  | 0, b => b
  | fuel + 1, b => if b.opened.isEmpty then b else closeAll fuel b.close

/-- Closes brackets, and brackets around them. -/
def closeBrackets : Nat → Build → Build
  | 0, b => b
  | fuel + 1, b =>
    match b.close.opened with
    | .node (.flow _ _ _ _) :: _ => closeBrackets fuel b.close
    | _ => b.close

/-! ## Opening -/

/-- Opens the node that begins with a lexeme, within the innermost part; nothing if a lexeme begins
none. The result is the node and what is open around it. -/
def begin? (b : Build) (x : Lexeme) : Option (Outline × Build) :=
  let firstKey (explicit : Bool) : Option (Outline × Build) :=
    match b.opened with
    | [] => none
    | top :: _ =>
      let (own, top) := top.splitProperties
      let item : OutlineItem Outline :=
        if explicit then { start := own ++ [x], explicit := true }
        else { start := own, separator := some [x] }
      some (.map x.offset x.indent [item], { b.setTop top with onKeyLine := true })
  match x.kind with
  | .alias | .plain | .singleQuoted | .doubleQuoted => some (.scalar x [], b)
  | .blockHeader => some (.block x.offset x.indent [x] [], b)
  | .mapOpen | .listOpen => some (.flow x x.indent [] [], b)
  | .entryMark => some (.list x.offset x.indent [{ start := [x] }], b)
  | .keyMark => firstKey true
  | .valueMark => firstKey false
  | _ => none

/-- What a complete scalar, brackets or a document do with what follows them: `put` adds it. -/
def atTail (b : Build) (x : Lexeme) (put : Lexeme → Opened) : Offer :=
  match x.kind with
  | .comma | .documentMark | .endMark | .listClose | .mapClose | .valueMark => .again b.close
  | .lineBreak => .taken { b.setTop (put x) with onKeyLine := false }.close
  | _ => .taken (b.setTop (put x))

/-! ## Offering -/

/-- Between documents. -/
def offerOutside (b : Build) (x : Lexeme) : Offer :=
  match x.kind with
  | .directive => .taken { b with sections := .directive x :: b.sections }
  | .byteOrderMark | .space | .comment | .lineBreak => .taken b
  | .content => .taken { b with opened := [.document { offset := x.offset }] }
  | .documentMark => .taken { b with opened := [.document { offset := x.offset, start := [x] }] }
  | _ => .taken b.fail

/-- In a document. -/
def offerDocument (b : Build) (x : Lexeme) (d : DocumentOutline) : Offer :=
  if d.value.isSome then b.atTail x fun x => .document { d with tail := d.tail ++ [x] }
  else
    let keep := Offer.taken (b.setTop (.document { d with start := d.start ++ [x] }))
    match x.kind with
    | .documentMark => if d.start.all Lexeme.isSilent then keep else .again b.close
    | .anchor | .tag | .space | .comment | .lineBreak => keep
    | _ =>
      match b.begin? x with
      | some (outline, b) => .taken (b.push outline)
      | none => .taken b.fail

/-- Behind a marker that ends a document. -/
def offerEnding (b : Build) (x mark : Lexeme) (tail : List Lexeme) : Offer :=
  if x.kind == .content then .taken b
  else
    let b := b.setTop (.ending mark (tail ++ [x]))
    .taken (if x.kind == .lineBreak then b.close else b)

/-- Behind a scalar; a colon makes it the first key of a map. -/
def offerScalar (b : Build) (x head : Lexeme) (tail : List Lexeme) : Offer :=
  if x.kind == .valueMark then
    match b.opened with
    | _ :: around :: below =>
      let (own, around) := around.splitProperties
      let item : OutlineItem Outline :=
        { start := own, key := some (.scalar head []), separator := some (tail ++ [x]) }
      .taken
        { b with
          onKeyLine := true
          opened := .node (.map head.offset head.indent [item]) :: around :: below }
    | _ => .taken b.fail
  else b.atTail x fun x => .node (.scalar head (tail ++ [x]))

/-- In a block scalar. -/
def offerBlock (b : Build) (x : Lexeme) (offset indent : Nat) (header : List Lexeme) : Offer :=
  match x.kind with
  | .space | .comment | .lineBreak =>
    .taken (b.setTop (.node (.block offset indent (header ++ [x]) [])))
  | .blockText => .taken (b.setTop (.node (.block offset indent header x.text))).close
  | _ => .again b.close

/-- Whether a comment belongs to what stands before the last item, which is empty: it is indented
more than the collection. -/
def isInner (x : Lexeme) (indent : Nat) (start : List Lexeme) : Bool :=
  x.kind == .comment && indent < x.indent &&
    start.all fun y => y.kind == .lineBreak || y.kind == .space

/-- The items with a comment moved to the end of the value before the last item, which is dropped;
none if that value can hold no comment. -/
def withInner? (x : Lexeme) (items : List (OutlineItem Outline)) :
    Option (List (OutlineItem Outline)) :=
  match items.getLast?, items.dropLast.getLast?.bind (·.value) with
  | some item, some value =>
    if value.isInline then
      some (modifyLast (fun i => { i with value := some (value.withTail (item.start ++ [x])) })
        items.dropLast)
    else none
  | _, _ => none

/-- What white space, a comment or a line break does to the items of a collection without
brackets. -/
def silentItems (x : Lexeme) (indent : Nat) (items : List (OutlineItem Outline)) :
    List (OutlineItem Outline) :=
  match items.getLast? with
  | none => items
  | some item =>
    match item.value, item.separator with
    | some value, _ =>
      let follows := (value.tail.getLast?.map (·.kind == .comment)).getD false
      if x.kind == .lineBreak && follows then
        modifyLast (fun i => { i with value := some (value.withTail [x]) }) items
      else items ++ [{ start := [x] }]
    | none, some separator =>
      modifyLast (fun i => { i with separator := some (separator ++ [x]) }) items
    | none, none =>
      let kept := modifyLast (fun i => { i with start := i.start ++ [x] }) items
      if isInner x indent item.start then (withInner? x items).getD kept else kept

/-- The place of the second of the line breaks behind which only comments at the side of a map and
white space follow. -/
def secondBreak? (indent : Nat) (separator : List Lexeme) : Option Nat :=
  let breaks := (separator.zipIdx).foldl (fun (found : List Nat) (x, i) =>
    match x.kind with
    | .lineBreak => found ++ [i]
    | .space => found
    | .comment => if indent < x.indent then [] else found
    | _ => []) []
  breaks[1]?

/-- What a colon does to the last item of a map; `moved` are the lexemes that go to a next item. The
result is the items of the map, and a map that opens within. -/
def valueMarkItems (x : Lexeme) (item : OutlineItem Outline) (atNext : Bool) (moved : List Lexeme)
    (items : List (OutlineItem Outline)) : List (OutlineItem Outline) × Option Outline :=
  let inner (item : OutlineItem Outline) : Option Outline := some (.map x.offset x.indent [item])
  let noKey : OutlineItem Outline := { separator := some [x] }
  match item.separator with
  | none =>
    if !item.explicit || Lexeme.anyOf .lineBreak item.start then
      (modifyLast (fun i => { i with key := none, separator := some [x] }) items, none)
    else
      let (others, own) := splitProperties item.start
      (modifyLast (fun i => { i with start := others }) items, inner { noKey with start := own })
  | some separator =>
    if item.explicit then
      if item.value.isSome then (items ++ [noKey], none)
      else if Lexeme.anyOf .valueMark separator then (items, inner { noKey with start := moved })
      else if (item.key.map Outline.isInline).getD false &&
          !Lexeme.anyOf .lineBreak separator then
        let (others, own) := splitProperties item.start
        (modifyLast (fun i => { i with start := others, key := none, separator := none }) items,
          inner { start := own, key := item.key, separator := some (separator ++ [x]) })
      else
        (modifyLast (fun i => { i with separator := some (separator ++ moved ++ [x]) }) items, none)
    else if item.value.isSome || atNext then (items ++ [{ noKey with start := moved }], none)
    else if Lexeme.anyOf .valueMark separator then (items, inner noKey)
    else (modifyLast (fun i => { i with separator := some (separator ++ [x]) }) items, none)

/-- In a map without brackets. -/
def offerMap (b : Build) (x : Lexeme) (offset indent : Nat) (items : List (OutlineItem Outline)) :
    Offer :=
  let set (items : List (OutlineItem Outline)) : Build := b.setTop (.node (.map offset indent items))
  match items.getLast? with
  | none => .taken b.fail
  | some item =>
    if x.isSilent then
      let b := set (silentItems x indent items)
      .taken (if x.kind == .lineBreak then { b with onKeyLine := false } else b)
    else if x.indent < indent then .again b.close
    else
      let atSide := !b.onKeyLine && x.indent == indent
      let atNext := atSide && (item.separator.isSome || item.explicit) && x.kind != .entryMark
      let moving? :=
        if atNext && item.value.isNone then item.separator.bind (secondBreak? indent) else none
      let separator := moving?.elim item.separator fun i => item.separator.map (·.take i)
      let moved := (moving?.bind fun i => item.separator.map (·.drop i)).getD []
      let item := { item with separator := separator }
      let items := modifyLast (fun _ => item) items
      match x.kind with
      | .anchor | .tag =>
        if atNext || item.value.isSome then
          .taken { set (items ++ [{ start := moved ++ [x] }]) with onKeyLine := true }
        else
          match item.separator with
          | some separator =>
            .taken (set (modifyLast (fun i => { i with separator := some (separator ++ [x]) }) items))
          | none => .taken (set (modifyLast (fun i => { i with start := i.start ++ [x] }) items))
      | .keyMark =>
        let b :=
          if item.separator.isNone && !item.explicit then
            set (modifyLast (fun i => { i with start := i.start ++ [x], explicit := true }) items)
          else if atNext || item.value.isSome then
            set (items ++ [{ start := moved ++ [x], explicit := true }])
          else (set items).push (.map x.offset x.indent [{ start := [x], explicit := true }])
        .taken { b with onKeyLine := true }
      | .valueMark =>
        let (items, inner) := valueMarkItems x item atNext moved items
        let b := { set items with onKeyLine := true }
        .taken (inner.elim b b.push)
      | .alias | .plain | .singleQuoted | .doubleQuoted =>
        let scalar := Outline.scalar x []
        if atNext || item.value.isSome then
          .taken { set (items ++ [{ start := moved, key := some scalar, separator := some [] }]) with
            onKeyLine := true }
        else if item.separator.isSome then .taken ((set items).push scalar)
        else
          .taken { set (modifyLast
              (fun i => { i with key := some scalar, separator := some [] }) items) with
            onKeyLine := true }
      | kind =>
        match (set items).begin? x with
        | none => .again (set items).close
        | some (outline, b') =>
          if kind == .entryMark then
            let sameLine := !item.explicit &&
              (item.separator.map fun s => !Lexeme.anyOf .lineBreak s).getD false
            .taken (if sameLine then b.fail else b'.push outline)
          else if atSide then .taken ((set (items ++ [{ start := moved }])).push outline)
          else .taken (b'.push outline)

/-- In a list without brackets. -/
def offerList (b : Build) (x : Lexeme) (offset indent : Nat) (items : List (OutlineItem Outline)) :
    Offer :=
  let set (items : List (OutlineItem Outline)) : Build :=
    b.setTop (.node (.list offset indent items))
  let keep := set (modifyLast (fun i => { i with start := i.start ++ [x] }) items)
  let inside : Offer :=
    if indent < x.indent then
      match b.begin? x with
      | some (outline, b) => .taken (b.push outline)
      | none => .again b.close
    else .again b.close
  match items.getLast? with
  | none => .taken b.fail
  | some item =>
    match x.kind with
    | .lineBreak | .space | .comment => .taken (set (silentItems x indent items))
    | .anchor | .tag => if item.value.isSome || x.indent ≤ indent then inside else .taken keep
    | .entryMark =>
      if x.indent != indent then inside
      else if item.value.isSome || Lexeme.anyOf .entryMark item.start then
        .taken (set (items ++ [{ start := [x] }]))
      else .taken keep
    | _ => inside

/-- In brackets that are open: the items with a lexeme; none if it opens a node or closes the
brackets. -/
def flowItems? (x : Lexeme) (items : List (OutlineItem Outline)) :
    Option (List (OutlineItem Outline)) :=
  let fresh := (items.getLast?.map fun i => i.value.isSome).getD true
  let separator := items.getLast?.bind (·.separator)
  let toSeparator (s : List Lexeme) :=
    modifyLast (fun (i : OutlineItem Outline) => { i with separator := some (s ++ [x]) }) items
  let toStart := modifyLast (fun (i : OutlineItem Outline) => { i with start := i.start ++ [x] }) items
  match x.kind with
  | .comma | .keyMark =>
    if items.isEmpty || separator.isSome then some (items ++ [{ start := [x] }]) else some toStart
  | .valueMark =>
    if fresh then some (items ++ [{ separator := some [x] }])
    else
      match separator with
      | some s => some (toSeparator s)
      | none => some (modifyLast (fun i => { i with key := none, separator := some [x] }) items)
  | .space | .comment | .lineBreak | .anchor | .tag =>
    if fresh then some (items ++ [{ start := [x] }])
    else
      match separator with
      | some s => some (toSeparator s)
      | none => some toStart
  | .alias | .plain | .singleQuoted | .doubleQuoted =>
    if fresh then some (items ++ [{ key := some (.scalar x []), separator := some [] }])
    else if separator.isSome then none
    else some (modifyLast (fun i => { i with key := some (.scalar x []), separator := some [] }) items)
  | _ => none

/-- In brackets, or behind them. -/
def offerFlow (b : Build) (x opening : Lexeme) (indent : Nat) (items : List (OutlineItem Outline))
    (tail : List Lexeme) : Offer :=
  let set (items : List (OutlineItem Outline)) (tail : List Lexeme) : Opened :=
    .node (.flow opening indent items tail)
  if x.kind == .broken then .taken (b.closeBrackets b.opened.length)
  else if tail.isEmpty then
    match flowItems? x items with
    | some items => .taken (b.setTop (set items tail))
    | none =>
      if x.kind == .mapClose || x.kind == .listClose then .taken (b.setTop (set items [x]))
      else
        match b.begin? x with
        | some (outline, b) => .taken (b.push outline)
        | none => .again b.close
  else
    match b.opened with
    | _ :: around :: below =>
      let closes : Bool :=
        match around with
        | .node (.map _ outer items) =>
          (x.kind == .valueMark && outer == indent) ||
            (x.kind == .lineBreak && (items.getLast?.map (·.separator.isNone)).getD true)
        | _ => false
      let inBrackets : Bool :=
        match around with
        | .node (.flow _ _ _ _) => true
        | _ => false
      if closes then .again b.close
      else if x.kind == .valueMark && !inBrackets then
        let (own, around) := around.splitProperties
        let key := (Outline.flow opening indent items (tail.take 1)).settled
        let item : OutlineItem Outline :=
          { start := own, key := some key, separator := some (tail.drop 1 ++ [x]) }
        .taken
          { b with
            onKeyLine := true
            opened := .node (.map opening.offset indent [item]) :: around :: below }
      else b.atTail x fun x => set items (tail ++ [x])
    | _ => .taken b.fail

/-- Offers a lexeme to the innermost part. -/
def offer (b : Build) (x : Lexeme) : Offer :=
  match b.opened with
  | [] => b.offerOutside x
  | .document d :: _ => b.offerDocument x d
  | .ending mark tail :: _ => b.offerEnding x mark tail
  | .node (.scalar head tail) :: _ => b.offerScalar x head tail
  | .node (.block offset indent header _) :: _ => b.offerBlock x offset indent header
  | .node (.map offset indent items) :: _ => b.offerMap x offset indent items
  | .node (.list offset indent items) :: _ => b.offerList x offset indent items
  | .node (.flow opening indent items tail) :: _ => b.offerFlow x opening indent items tail

/-- Whether the innermost part is the end of a document. -/
def isEnding (b : Build) : Bool :=
  match b.opened with
  | .ending _ _ :: _ => true
  | _ => false

/-- Finds a place for a lexeme. Each offer that is not taken closes a part. -/
def add : Nat → Build → Lexeme → Build
  | 0, b, _ => b.fail
  | fuel + 1, b, x =>
    if x.kind == .endMark && !b.isEnding then
      { b.closeAll b.opened.length with opened := [.ending x []] }
    else
      match b.offer x with
      | .taken b => b
      | .again b => add fuel b x

/-- The build of some lexemes. -/
def ofLexemes (xs : List Lexeme) : Build :=
  let b := xs.foldl (fun b x => add (b.opened.length + 2) b x) {}
  b.closeAll b.opened.length

end Build

/-- The sections of a text. -/
def sections? (xs : List Lexeme) : Option (List Section) :=
  let b := Build.ofLexemes xs
  if b.sound then some b.sections.reverse else none

end ChatRelay.Yaml
