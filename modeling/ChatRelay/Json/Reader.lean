import ChatRelay.Json.Basic

/-!
# Reading JSON

`parse?` accepts exactly the JSON texts of RFC 8259, with white space from space, tab, carriage
return and line feed only. The functions below it take the beginning of a text and return the rest
behind what they read. Nesting is bounded by `fuel`, which `parse?` sets to the length of the text,
more than any nesting in it.
-/

namespace ChatRelay.Json

/-- White space between tokens. -/
def isSpace (u : CodeUnit) : Bool := u == 32 || u == 9 || u == 10 || u == 13

/-- The text behind leading white space. -/
def skipSpace (t : Text) : Text := t.dropWhile isSpace

/-! ## Strings -/

/-- The unit that a one-letter escape stands for. -/
def shortEscape? (u : CodeUnit) : Option CodeUnit :=
  if u = Text.unit '"' then some u
  else if u = Text.unit '\\' then some u
  else if u = Text.unit '/' then some u
  else if u = Text.unit 'b' then some 8
  else if u = Text.unit 'f' then some 12
  else if u = Text.unit 'n' then some 10
  else if u = Text.unit 'r' then some 13
  else if u = Text.unit 't' then some 9
  else none

/-- The unit of four hexadecimal digits. -/
def hexUnit? (a b c d : CodeUnit) : Option CodeUnit := do
  let a ← Text.hexDigit? a
  let b ← Text.hexDigit? b
  let c ← Text.hexDigit? c
  let d ← Text.hexDigit? d
  return (((a * 16 + b) * 16 + c) * 16 + d).toUInt16

/-- The content of a string whose opening quote has been read. -/
def stringBody : Text → Option (Text × Text)
  | [] => none
  | u :: r =>
    if u = Text.unit '"' then some ([], r)
    else if u = Text.unit '\\' then
      match r with
      | e :: r =>
        if e = Text.unit 'u' then
          match r with
          | a :: b :: c :: d :: r =>
            match hexUnit? a b c d, stringBody r with
            | some v, some (s, rest) => some (v :: s, rest)
            | _, _ => none
          | _ => none
        else
          match shortEscape? e, stringBody r with
          | some v, some (s, rest) => some (v :: s, rest)
          | _, _ => none
      | [] => none
    else if u < 32 then none
    else
      match stringBody r with
      | some (s, rest) => some (u :: s, rest)
      | none => none

/-! ## Numbers -/

/-- One or more digits: their values and the rest. -/
def digits1 (t : Text) : Option (List Nat × Text) :=
  match Number.spanDigits t with
  | ([], _) => none
  | (ds, rest) => some (ds, rest)

/-- The integer part: a single zero, or digits that do not begin with zero. -/
def integerPart (t : Text) : Option (List Nat × Text) :=
  match digits1 t with
  | some (0 :: _, _) => some ([0], t.drop 1)
  | r => r

/-- The fraction: nothing, or a point and one or more digits. -/
def fractionPart : Text → Option (List Nat × Text)
  | [] => some ([], [])
  | u :: r => if u = Text.unit '.' then digits1 r else some ([], u :: r)

/-- The exponent: nothing, or `e`, an optional sign and one or more digits. -/
def exponentPart : Text → Option (Int × Text)
  | [] => some (0, [])
  | u :: r =>
    if u = Text.unit 'e' || u = Text.unit 'E' then
      match r with
      | [] => none
      | s :: r' =>
        let (negative, r) :=
          if s = Text.unit '-' then (true, r') else if s = Text.unit '+' then (false, r') else (false, r)
        match digits1 r with
        | some (ds, rest) =>
          let n : Int := Text.digitsValue 10 ds
          some (if negative then -n else n, rest)
        | none => none
    else some (0, u :: r)

/-- A number. -/
def number (t : Text) : Option (Number × Text) := do
  let (negative, t) :=
    match t with
    | u :: r => if u = Text.unit '-' then (true, r) else (false, u :: r)
    | [] => (false, [])
  let (whole, t) ← integerPart t
  let (fraction, t) ← fractionPart t
  let (e, t) ← exponentPart t
  return (Number.ofDecimal negative (Text.digitsValue 10 (whole ++ fraction)) (e - fraction.length), t)

/-! ## Values -/

mutual

/-- A value, from its first unit on. -/
def value : Nat → Text → Option (Json × Text)
  | 0, _ => none
  | fuel + 1, t =>
    match t with
    | [] => none
    | u :: r =>
      if u = Text.unit '"' then (stringBody r).map fun (s, rest) => (.str s, rest)
      else if u = Text.unit '[' then
        match skipSpace r with
        | [] => none
        | v :: r =>
          if v = Text.unit ']' then some (.arr [], r)
          else (items fuel (v :: r)).map fun (xs, rest) => (.arr xs, rest)
      else if u = Text.unit '\x7b' then
        match skipSpace r with
        | [] => none
        | v :: r =>
          if v = Text.unit '\x7d' then some (.obj [], r)
          else (members fuel (v :: r)).map fun (ms, rest) => (.obj (ofPairs ms), rest)
      else if u = Text.unit 't' then (Text.after? "rue" r).map fun rest => (.bool true, rest)
      else if u = Text.unit 'f' then (Text.after? "alse" r).map fun rest => (.bool false, rest)
      else if u = Text.unit 'n' then (Text.after? "ull" r).map fun rest => (.null, rest)
      else (number (u :: r)).map fun (x, rest) => (.num x, rest)

/-- One or more items up to the closing bracket. -/
def items : Nat → Text → Option (List Json × Text)
  | 0, _ => none
  | fuel + 1, t =>
    match value fuel t with
    | none => none
    | some (x, rest) =>
      match skipSpace rest with
      | [] => none
      | u :: r =>
        if u = Text.unit ',' then (items fuel (skipSpace r)).map fun (xs, rest) => (x :: xs, rest)
        else if u = Text.unit ']' then some ([x], r)
        else none

/-- One or more members up to the closing brace, in the order and number in which they stand. -/
def members : Nat → Text → Option (List (Text × Json) × Text)
  | 0, _ => none
  | fuel + 1, t =>
    match t with
    | [] => none
    | q :: r =>
      if q = Text.unit '"' then
        match stringBody r with
        | none => none
        | some (key, rest) =>
          match skipSpace rest with
          | [] => none
          | c :: r =>
            if c = Text.unit ':' then
              match value fuel (skipSpace r) with
              | none => none
              | some (x, rest) =>
                match skipSpace rest with
                | [] => none
                | u :: r =>
                  if u = Text.unit ',' then
                    (members fuel (skipSpace r)).map fun (ms, rest) => ((key, x) :: ms, rest)
                  else if u = Text.unit '\x7d' then some ([(key, x)], r)
                  else none
            else none
      else none

end

/-- The value of a JSON text. -/
def parse? (t : Text) : Option Json :=
  match value (t.length + 1) (skipSpace t) with
  | some (v, rest) => if (skipSpace rest).isEmpty then some v else none
  | none => none

end ChatRelay.Json
