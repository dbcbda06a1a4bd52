import ChatRelay.Yaml.Outline

/-!
# What leads to a node

Before a node stand its properties, the indicator of its place in a collection, white space and
comments. `Lead.of?` reads them, and refuses what may not stand there: a property twice, a comment
without white space in front, tabs that indent. `trailing?` reads what stands behind a node, which
may only be comments.
-/

namespace ChatRelay.Yaml

/-- What stands in front of a node. `stop` is where it ends, `start` where the properties begin;
`spaced` tells of an empty line, `broken` of any line break; `breakBehind` is the last line break
behind a property. -/
structure Lead where
  start : Option Nat := none
  stop : Nat := 0
  mark : Option Lexeme := none
  comma : Option Lexeme := none
  anchor : Option Lexeme := none
  tag : Option Lexeme := none
  spaced : Bool := false
  broken : Bool := false
  comment : Text := []
  breakBehind : Option Lexeme := none

namespace Lead

/-- The place where the properties begin, or where they would. -/
def begins (lead : Lead) : Nat := lead.start.getD lead.stop

/-- Whether there is a property. -/
def hasProperties (lead : Lead) : Bool := lead.anchor.isSome || lead.tag.isSome

/-- What follows, as far as it matters: whether it would touch a property right before it, and
whether it is a collection with brackets or without. -/
structure Follower where
  touches : Bool := false
  inBrackets : Bool := false
  isBlock : Bool := false

/-- A node that follows. -/
def Follower.ofOutline (outline : Outline) : Follower :=
  match outline with
  | .scalar head _ => { touches := head.kind != .plain || !head.text.isEmpty }
  | .block _ _ _ _ => { touches := true }
  | .flow _ _ _ _ => { touches := true, inBrackets := true }
  | _ => { touches := true, isBlock := true }

/-- A lexeme that follows. -/
def Follower.ofLexeme (x : Lexeme) : Follower :=
  { touches := x.kind != .space && x.kind != .lineBreak && x.kind != .comma &&
      (x.kind != .plain || !x.text.isEmpty) }

/-- A node that follows, or else the first of some lexemes. -/
def Follower.of (outline : Option Outline) (others : List Lexeme) : Follower :=
  match outline, others with
  | some outline, _ => .ofOutline outline
  | none, x :: _ => .ofLexeme x
  | none, [] => {}

/-- Where something is led to: the indicator that belongs there, whether it is in brackets, what
follows, where nothing would stand, the indentation around, and whether a line begins. -/
structure Place where
  mark : LexemeKind
  inBrackets : Bool := false
  next : Follower
  offset : Nat
  indent : Nat
  atLineStart : Bool

/-- What has been read, and what is remembered for the next lexeme: whether it begins a line, whether
white space is right before it, whether white space must be, a tab in front of it, and the line
breaks since the last comment. -/
structure Reading where
  lead : Lead
  atLineStart : Bool
  spaced : Bool
  gapNeeded : Bool := false
  tab : Option Lexeme := none
  breaks : Text := []

/-- Reads a property, which there may be once. -/
def Reading.property? (r : Reading) (x : Lexeme) (present : Option Lexeme) (put : Lead → Lead) :
    Option Reading :=
  if present.isSome then none
  else
    some
      { r with
        lead := put { r.lead with start := some (r.lead.start.getD x.offset) }
        atLineStart := false
        spaced := false
        gapNeeded := true }

/-- Reads a line break. Behind nothing it makes an empty line, other than right behind the indicator
of an entry. -/
def Reading.lineBreak (r : Reading) (place : Place) (x : Lexeme) : Reading :=
  let lead := r.lead
  let lead : Lead :=
    if r.atLineStart then
      if !lead.comment.isEmpty then { lead with comment := lead.comment ++ x.text }
      else if lead.mark.isNone || place.mark != .entryMark then { lead with spaced := true }
      else lead
    else lead
  { r with
    lead :=
      { lead with
        broken := true
        breakBehind := if lead.hasProperties then some x else lead.breakBehind }
    breaks := if r.atLineStart then r.breaks else r.breaks ++ x.text
    atLineStart := true
    spaced := true }

/-- Reads a lexeme, if nothing is wrong with it. -/
def Reading.next? (r : Reading) (place : Place) (x : Lexeme) : Option Reading :=
  let separates := x.kind == .space || x.kind == .lineBreak || x.kind == .comma
  let indents := r.atLineStart && x.kind != .comment && x.kind != .lineBreak
  if (r.gapNeeded && !separates) || (r.tab.isSome && indents) then none
  else
    let r := { r with gapNeeded := false, tab := none }
    match x.kind with
    | .space =>
      let counts := !place.inBrackets && (place.mark != .documentMark || !place.next.inBrackets)
      some { r with
        spaced := true, tab := if counts && x.text.contains 9 then some x else none }
    | .comment =>
      if !r.spaced then none
      else
        let words : Text := if x.said.isEmpty then " " else x.said
        let comment := if r.lead.comment.isEmpty then words else r.lead.comment ++ r.breaks ++ words
        some { r with lead := { r.lead with comment := comment }, breaks := [], atLineStart := false }
    | .lineBreak => some (r.lineBreak place x)
    | .anchor => r.property? x r.lead.anchor fun lead => { lead with anchor := some x }
    | .tag => r.property? x r.lead.tag fun lead => { lead with tag := some x }
    | kind =>
      if kind == place.mark then
        if r.lead.hasProperties || r.lead.mark.isSome then none
        else
          some
            { r with
              lead := { r.lead with mark := some x }
              atLineStart := kind == .entryMark || kind == .keyMark
              spaced := false }
      else if kind == .comma && place.inBrackets && r.lead.comma.isNone then
        some
          { r with lead := { r.lead with comma := some x }, atLineStart := false, spaced := false }
      else none

/-- Reads all lexemes. -/
def Reading.all? (place : Place) (r : Reading) : List Lexeme → Option Reading
  | [] => some r
  | x :: xs => (r.next? place x).bind fun r => r.all? place xs

/-- What the lexemes in front of a place say, if nothing is wrong with them. -/
def of? (place : Place) (xs : List Lexeme) : Option Lead :=
  match Reading.all? place ⟨{}, place.atLineStart, place.atLineStart, false, none, []⟩ xs with
  | none => none
  | some r =>
    let indents (tab : Lexeme) : Bool :=
      (r.atLineStart && tab.indent ≤ place.indent) || place.next.isBlock
    if (r.gapNeeded && place.next.touches) || (r.tab.map indents).getD false then none
    else some { r.lead with stop := (xs.getLast?.map Lexeme.stop).getD place.offset }

end Lead

/-! ## Behind a node -/

/-- The comments behind a node that ends at some place, and the place behind them. A comment needs
white space in front if that is asked. -/
def trailing? (strict : Bool) (offset : Nat) (xs : List Lexeme) : Option (Text × Nat) :=
  go false [] [] offset xs
where
  /-- Goes on behind some comment. -/
  go (spaced : Bool) (comment breaks : Text) (offset : Nat) : List Lexeme → Option (Text × Nat)
    | [] => some (comment, offset)
    | x :: xs =>
      let behind := offset + x.text.length
      match x.kind with
      | .space => go true comment breaks behind xs
      | .comment =>
        if strict && !spaced then none
        else
          let words : Text := if x.said.isEmpty then " " else x.said
          go spaced (if comment.isEmpty then words else comment ++ breaks ++ words) [] behind xs
      | .lineBreak => go true comment (if comment.isEmpty then breaks else breaks ++ x.text) behind xs
      | _ => none

end ChatRelay.Yaml
