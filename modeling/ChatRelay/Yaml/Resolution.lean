import ChatRelay.Yaml.Composition
import ChatRelay.Yaml.Value
import ChatRelay.Yaml.Written

/-!
# From nodes to values

Aliases are followed in document order. An alias stands for the last node before it that has its
anchor; the value of that node is found once and shared. Aliases inside of anchored nodes multiply,
so there is a limit on how often a node may be used: the number of its uses times the weight of what
it holds must not exceed `maxExpansion`.

A merge key brings in the entries of other maps, as far as a map does not have them already. The
maps that are brought in are read again each time; a map that brings in itself has no end.
-/

namespace ChatRelay.Yaml

/-- A document whose aliases are followed: its version and handles, and its nodes with anchors. -/
structure Sources where
  scope : Scope
  anchored : List (Anchor × Node)

/-- An anchored node that has been reached: its value once that is begun, how often it was used,
itself included, and its weight once an alias has asked for it. -/
structure Reached where
  anchor : Anchor
  value : Option Value := none
  uses : Nat := 1
  weight : Nat := 0

/-- The anchored nodes that have been reached, in the order in which they were first. -/
abbrev ReachedNodes := List Reached

namespace ReachedNodes

/-- What is known of the node with an anchor. -/
def find? (reached : ReachedNodes) (anchor : Anchor) : Option Reached :=
  List.find? (fun r => r.anchor == anchor) reached

/-- Sets what is known of a node with an anchor. -/
def put (reached : ReachedNodes) (r : Reached) : ReachedNodes :=
  if (ReachedNodes.find? reached r.anchor).isSome then
    reached.map fun q => if q.anchor == r.anchor then r else q
  else reached ++ [r]

mutual

/-- How much an alias of a node weighs: the product of uses and weight of the heaviest alias inside
of it. -/
def weight (sources : Sources) (reached : ReachedNodes) : Node → Nat
  | .alias name place _ =>
    (((Node.target? sources.anchored name place).bind fun (a, _) => find? reached a).map
      fun r => r.uses * r.weight).getD 0
  | .scalar _ _ => 1
  | .list _ _ items => itemsWeight sources reached items
  | .map _ _ entries => entriesWeight sources reached entries
  | .pair entry => entryWeight sources reached entry

/-- The weight of the heaviest item. -/
def itemsWeight (sources : Sources) (reached : ReachedNodes) : List Node → Nat
  | [] => 0
  | x :: xs => max (weight sources reached x) (itemsWeight sources reached xs)

/-- The weight of the heavier of key and value; a value that is not written weighs one. -/
def entryWeight (sources : Sources) (reached : ReachedNodes) : Entry → Nat
  | .lone key => max (weight sources reached key) 1
  | .full key value => max (weight sources reached key) (weight sources reached value)

/-- The weight of the heaviest entry. -/
def entriesWeight (sources : Sources) (reached : ReachedNodes) : List Entry → Nat
  | [] => 0
  | e :: es => max (entryWeight sources reached e) (entriesWeight sources reached es)

end

/-- The greatest product of uses and weight that an anchored node may reach. -/
def maxExpansion : Nat := 100

end ReachedNodes

/-- A computation that meets anchors and aliases. -/
abbrev Resolution := StateT ReachedNodes (Except Error)

namespace Resolution

/-- Notes that a node with an anchor is reached, with what is known of its value. -/
def reach (anchor : Option Anchor) (value : Option Value) : Resolution Unit :=
  match anchor with
  | none => return ()
  | some a => modify fun reached => reached.put { anchor := a, value := value }

/-- Notes the value of a node that was reached. -/
def settle (anchor : Option Anchor) (value : Value) : Resolution Value := do
  match anchor with
  | none => return value
  | some a =>
    modify fun reached =>
      match reached.find? a with
      | some r => reached.put { r with value := some value }
      | none => reached
    return value

/-- Uses the value of an anchored node once more. -/
def use (sources : Sources) (anchor : Anchor) (node : Node) : Resolution Value := do
  let reached ← get
  match reached.find? anchor with
  | none => throw (.unresolvedAlias anchor.name)
  | some r =>
    let weight := if r.weight = 0 then reached.weight sources node else r.weight
    let used := { r with uses := r.uses + 1, weight := weight }
    if ReachedNodes.maxExpansion < used.uses * weight then throw .excessiveAliases
    else
      set (reached.put used)
      match r.value with
      | some value => return value
      | none => throw (.unresolvedAlias anchor.name)

end Resolution

/-- Whether a value is one that does not name itself. -/
def Value.isCompound : Value → Bool
  | .moment _ => true
  | .bytes _ => true
  | .arr _ => true
  | .obj _ => true
  | .set _ => true
  | .orderedMap => true
  | _ => false

/-- The key that a node with some value makes: null makes the empty one, a collection is written
out. -/
def keyText (sources : Sources) (node : Node) (value : Value) : Resolution Text := do
  if value.isCompound then
    match node with
    | .scalar _ _ => return value.plain?.getD []
    | node =>
      let names := (← get).map fun r => r.anchor.name
      match node.keyText sources.scope.version sources.scope.handles names with
      | .ok t => return t
      | .error e => throw e
  else
    match value with
    | .null => return []
    | .merge => return Value.mergeName
    | value => return value.plain?.getD []

/-- Whether a key brings in the entries of other maps. A text does in the older version if it is
written without quotes. -/
def isMergeKey (version : Version) : Node → Bool
  | .scalar _ content =>
    content.reading.value == .merge ||
      (version == .older && content.style == .plain &&
        content.reading.value == .text Scalar.mergeKey)
  | _ => false

/-- The map that a node is or stands for. -/
def mapEntries? (sources : Sources) : Node → Option (List Entry)
  | .map _ false entries => some entries
  | .alias name place _ =>
    match Node.target? sources.anchored name place with
    | some (_, .map _ false entries) => some entries
    | _ => none
  | _ => none

/-- The set that a node is or stands for. -/
def setEntries? (sources : Sources) : Node → Option (List Entry)
  | .map _ true entries => some entries
  | .alias name place _ =>
    match Node.target? sources.anchored name place with
    | some (_, .map _ true entries) => some entries
    | _ => none
  | _ => none

/-- The nodes that a merge key names: the items of a list, or one node. -/
def mergedNodes (sources : Sources) : Node → List Node
  | .list _ _ items => items
  | .alias name place notes =>
    match Node.target? sources.anchored name place with
    | some (_, .list _ _ items) => items
    | _ => [.alias name place notes]
  | node => [node]

/-- The nodes that an entry with a merge key brings in; one without a value names no map. -/
def mergedBy (sources : Sources) (entry : Entry) : List Node :=
  (entry.value?.map (mergedNodes sources)).getD [.pair entry]

/-- A map whose keys are values, in the order of its entries. -/
abbrev Pairs := List (Value × Value)

/-- The pairs with one more; a key that is there gets the value. -/
def putPair (pairs : Pairs) (key value : Value) : Pairs :=
  if pairs.any fun p => p.1.sameScalar key then
    pairs.map fun p => if p.1.sameScalar key then (p.1, value) else p
  else pairs ++ [(key, value)]

/-- The pair that a member of a set is taken for: the first two characters of a text, or the first
two items of a list. Nothing is left of it if there is no second one. -/
def pairOfMember : Value → Except Error Pairs
  | .str t =>
    match t.points with
    | p :: q :: _ => .ok [(.str (Text.ofPoint p), .str (Text.ofPoint q))]
    | _ => .ok []
  | .arr (x :: y :: _) => .ok [(x, y)]
  | .arr _ => .ok []
  | _ => .error .keyWithoutText

mutual

/-- The value of a node. The fuel is more than three times the number of nodes; a map that brings in
itself uses it up. -/
def resolve (sources : Sources) (fuel : Nat) (node : Node) : Resolution Value := do
  match fuel with
  | 0 => throw .endless
  | fuel + 1 =>
    match node with
    | .alias name place _ =>
      match Node.target? sources.anchored name place with
      | none => throw (.unresolvedAlias name)
      | some (anchor, target) =>
        if ((← get).find? anchor).isNone then
          let _ ← resolve sources fuel target
        Resolution.use sources anchor target
    | .scalar info content =>
      Resolution.reach info.anchor none
      Resolution.settle info.anchor (.ofScalar content.reading.value)
    | .list info false items =>
      Resolution.reach info.anchor (some (.arr []))
      let values ← resolveItems sources fuel items
      Resolution.settle info.anchor (.arr values)
    | .list info true items =>
      Resolution.reach info.anchor (some .orderedMap)
      let _ ← resolveOrdered sources fuel [] items
      Resolution.settle info.anchor .orderedMap
    | .map info false entries =>
      Resolution.reach info.anchor (some (.obj []))
      let members ← resolveMembers sources fuel [] entries
      Resolution.settle info.anchor (.obj members)
    | .map info true entries =>
      Resolution.reach info.anchor (some (.set []))
      let items ← resolveSet sources fuel [] entries
      Resolution.settle info.anchor (.set items)
    | .pair entry => return .obj (← resolveMembers sources fuel [] [entry])
termination_by (fuel, 0)

/-- The values of items. -/
def resolveItems (sources : Sources) (fuel : Nat) (items : List Node) : Resolution (List Value) := do
  match items with
  | [] => return []
  | x :: xs =>
    let value ← resolve sources fuel x
    return value :: (← resolveItems sources fuel xs)
termination_by (fuel, items.length + 1)

/-- The keys of an ordered map, which have to differ. -/
def resolveOrdered (sources : Sources) (fuel : Nat) (keys : List Value) (items : List Node) :
    Resolution (List Value) := do
  match items with
  | [] => return keys
  | x :: xs =>
    let key ←
      match x with
      | .pair entry => resolve sources fuel entry.key
      | node => resolve sources fuel node
    match x with
    | .pair (.full _ value) =>
      let _ ← resolve sources fuel value
    | _ => pure ()
    if keys.any key.sameScalar then throw .repeatedKey
    else resolveOrdered sources fuel (keys ++ [key]) xs
termination_by (fuel, items.length + 1)

/-- The members of a set. A merge key has nothing to bring in there. -/
def resolveSet (sources : Sources) (fuel : Nat) (found : List Value) (entries : List Entry) :
    Resolution (List Value) := do
  match entries with
  | [] => return found
  | e :: es =>
    if isMergeKey sources.scope.version e.key then throw .mergedNoMap
    else
      let key ← resolve sources fuel e.key
      resolveSet sources fuel (if found.any key.sameScalar then found else found ++ [key]) es
termination_by (fuel, entries.length + 1)

/-- The members that entries add to an object. -/
def resolveMembers (sources : Sources) (fuel : Nat) (members : List (Text × Value))
    (entries : List Entry) : Resolution (List (Text × Value)) := do
  match entries with
  | [] => return members
  | e :: es =>
    if isMergeKey sources.scope.version e.key then
      let pairs ←
        match fuel with
        | 0 => throw .endless
        | less + 1 => mergedPairs sources less (mergedBy sources e)
      let members ← pairs.foldlM (fun ms (key, value) =>
        match key, key.plain? with
        | .merge, _ => pure ms
        | _, none => throw .keyWithoutText
        | _, some name =>
          pure (if (Json.lookup name ms).isSome then ms else Json.insert ms name value)) members
      resolveMembers sources fuel members es
    else
      let key ← resolve sources fuel e.key
      let name ← keyText sources e.key key
      let value ←
        match e with
        | .lone _ => pure .null
        | .full _ value => resolve sources fuel value
      resolveMembers sources fuel (Json.insert members name value) es
termination_by (fuel, entries.length + 1)

/-- The pairs that nodes bring in, each of which has to be a map. -/
def mergedPairs (sources : Sources) (fuel : Nat) (nodes : List Node) : Resolution Pairs := do
  match fuel with
  | 0 => throw .endless
  | fuel + 1 =>
    match nodes with
    | [] => return []
    | x :: xs =>
      match mapEntries? sources x, setEntries? sources x with
      | some entries, _ =>
        let pairs ← resolvePairs sources fuel [] entries
        return pairs ++ (← mergedPairs sources (fuel + 1) xs)
      | none, some entries =>
        let items ← resolveSet sources fuel [] entries
        match items.mapM pairOfMember with
        | .error e => throw e
        | .ok pairs => return pairs.flatten ++ (← mergedPairs sources (fuel + 1) xs)
      | none, none => throw .mergedNoMap
termination_by (fuel, nodes.length)

/-- The pairs that entries add to a map that is brought in. -/
def resolvePairs (sources : Sources) (fuel : Nat) (pairs : Pairs) (entries : List Entry) :
    Resolution Pairs := do
  match entries with
  | [] => return pairs
  | e :: es =>
    if isMergeKey sources.scope.version e.key then
      let more ←
        match fuel with
        | 0 => throw .endless
        | less + 1 => mergedPairs sources less (mergedBy sources e)
      let pairs := more.foldl (fun ps (key, value) =>
        if ps.any fun p => p.1.sameScalar key then ps else ps ++ [(key, value)]) pairs
      resolvePairs sources fuel pairs es
    else
      let key ← resolve sources fuel e.key
      let value ←
        match e with
        | .lone _ => pure .null
        | .full _ value => resolve sources fuel value
      resolvePairs sources fuel (putPair pairs key value) es
termination_by (fuel, entries.length + 1)

end

/-- The value of the node of a document. -/
def Node.value (scope : Scope) (node : Node) : Except Error Value :=
  ((resolve ⟨scope, node.anchored⟩ (3 * node.size + 3) node).run []).map Prod.fst

end ChatRelay.Yaml
