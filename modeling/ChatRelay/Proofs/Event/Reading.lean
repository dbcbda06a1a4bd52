import ChatRelay.Proofs.Event.Shape
import ChatRelay.Proofs.Validation

/-!
# What was read was written

The other direction of `Event.parse_of_writes`: a payload that is read as an event describes that
event (`Event.parse_eq_ok_iff_writes`), so `Event.Describes` is all there is to the reading of
payloads. A check accepts a value in one way only; members follow from checks, and events from
members.

What an event can say is read off its description. The counts in it are whole numbers that are not
negative, and a member that may be left out has a default (`Event.Describes.sendable`).
-/

namespace ChatRelay

open Json (lookup)

/-! ## Checks of JSON -/

namespace Check

open Checked

variable {path : List PathStep} {v : Option Json} {α : Type}

theorem string_eq_accept {t : Text} (h : string path v = .accept t) : v = some (.str t) :=
  Json.map_shape_eq.mp (string_eq_accept_iff.mp h)

theorem nonEmptyString_eq_accept {t : Text} (h : nonEmptyString path v = .accept t) :
    v = some (.str t) ∧ t ≠ [] :=
  (nonEmptyString_eq_accept_iff.mp h).imp_left Json.map_shape_eq.mp

theorem count_eq_accept {n : Number} (h : count path v = .accept n) :
    ∃ x : Number, v = some (.num x) ∧ x.isInteger = true ∧ x.isNonNegative = true ∧
      x.plainZero = n := by
  obtain ⟨x, hv, hx⟩ := count_eq_accept_iff.mp h
  exact ⟨x, Json.map_shape_eq.mp hv, hx⟩

theorem optionalOrNull_eq_accept {check : Check α} {o : Option α}
    (h : optionalOrNull check path v = .accept o) :
    (v = none ∧ o = none) ∨ (v = some .null ∧ o = none) ∨
      ∃ w a, v = some w ∧ check path (some w) = .accept a ∧ o = some a := by
  obtain ⟨_, hoptional, rfl⟩ := map_eq_accept_iff.mp h
  rcases optional_eq_accept_iff.mp hoptional with ⟨rfl, rfl⟩ | ⟨w, _, rfl, hnullable, rfl⟩
  · exact .inl ⟨rfl, rfl⟩
  · rcases nullable_eq_accept_iff.mp hnullable with ⟨hnull, rfl⟩ | ⟨-, a, ha, rfl⟩
    · exact .inr (.inl ⟨Json.map_shape_eq.mp hnull, rfl⟩)
    · exact .inr (.inr ⟨w, a, rfl, ha, rfl⟩)

theorem object_eq_accept {fields : List PathStep → Json.Members → Checked α} {a : α}
    (h : object fields path v = .accept a) :
    ∃ ms, v = some (.obj ms) ∧ fields path ms = .accept a := by
  obtain ⟨ms, hv, hfields⟩ := object_eq_accept_iff.mp h
  exact ⟨ms, Json.map_shape_eq.mp hv, hfields⟩

theorem typed_eq_accept {kind : Text} {what : Json.Members}
    (h : typed path v = .accept (kind, what)) :
    v = some (.obj what) ∧ lookup "type" what = some (.str kind) := by
  obtain ⟨ms, rfl, hfields⟩ := object_eq_accept h
  obtain ⟨_, htype, hpair⟩ := functor_eq_accept_iff.mp hfields
  cases hpair
  exact ⟨rfl, string_eq_accept htype⟩

end Check

open Check Checked

variable {path : List PathStep} {ms : Json.Members} {key : Text}

/-! ## Members -/

theorem CountAt.of_field {n : Number} (h : field count path ms key = .accept n) :
    CountAt ms key (some n) := by
  obtain ⟨x, hx, hint, hnonneg, rfl⟩ := count_eq_accept h
  exact .present hx hint hnonneg

theorem CountAt.of_optional {n : Option Number}
    (h : field (optional count) path ms key = .accept n) : CountAt ms key n := by
  rcases optional_eq_accept_iff.mp h with ⟨habsent, rfl⟩ | ⟨w, a, hw, ha, rfl⟩
  · exact .absent habsent
  · obtain ⟨x, hx, hint, hnonneg, rfl⟩ := count_eq_accept ha
    exact .present (hw.trans hx) hint hnonneg

/-- The counts that an object has been checked for are those that it holds. -/
theorem UsageAt.of_object {v : Json} {u : Usage} (hv : lookup key ms = some v)
    (h : Usage.check path (some v) = .accept u) : UsageAt ms key (some u) := by
  obtain ⟨counts, hcounts, hfields⟩ := object_eq_accept h
  obtain ⟨_, output, hmake, houtput, rfl⟩ := seq_eq_accept_iff.mp hfields
  obtain ⟨input, hinput, rfl⟩ := functor_eq_accept_iff.mp hmake
  exact .present (hv.trans hcounts) (.of_optional hinput) (.of_optional houtput)

theorem UsageAt.of_optional {u : Option Usage}
    (h : field (optional Usage.check) path ms key = .accept u) : UsageAt ms key u := by
  rcases optional_eq_accept_iff.mp h with ⟨habsent, rfl⟩ | ⟨v, a, hv, ha, rfl⟩
  · exact .absent habsent
  · exact .of_object hv ha

theorem UsageAt.of_optionalOrNull {u : Option Usage}
    (h : field (optionalOrNull Usage.check) path ms key = .accept u) :
    UsageAt ms key u ∨ lookup key ms = some .null ∧ u = none := by
  rcases optionalOrNull_eq_accept h with ⟨habsent, rfl⟩ | ⟨hnull, rfl⟩ | ⟨v, a, hv, ha, rfl⟩
  · exact .inl (.absent habsent)
  · exact .inr ⟨hnull, rfl⟩
  · exact .inl (.of_object hv ha)

theorem TextOrNullAt.of_field {t : Option Text}
    (h : field (optionalOrNull string) path ms key = .accept t) : TextOrNullAt ms key t := by
  rcases optionalOrNull_eq_accept h with ⟨habsent, rfl⟩ | ⟨hnull, rfl⟩ | ⟨v, s, hv, hs, rfl⟩
  · exact .absent habsent
  · exact .null hnull
  · exact .present (hv.trans (string_eq_accept hs))

theorem HeaderAt.of_field {header : Header} (h : field Header.check path ms key = .accept header) :
    HeaderAt ms key header := by
  rw [field, Header.check] at h
  obtain ⟨message, hmessage, hfields⟩ := object_eq_accept h
  obtain ⟨_, _, hnames, hdefault, rfl⟩ := seq_eq_accept_iff.mp hfields
  obtain ⟨_, role, hmodels, hrole, rfl⟩ := seq_eq_accept_iff.mp hnames
  obtain ⟨_, model, hids, hmodel, rfl⟩ := seq_eq_accept_iff.mp hmodels
  obtain ⟨id, hid, rfl⟩ := functor_eq_accept_iff.mp hids
  obtain ⟨usage, husage, rfl⟩ := functor_eq_accept_iff.mp hdefault
  exact .mk hmessage (string_eq_accept hid) (string_eq_accept hmodel) (string_eq_accept hrole)
    (.of_optional husage)

theorem StopInfoAt.of_field {stop : StopInfo}
    (h : field StopInfo.check path ms key = .accept stop) : StopInfoAt ms key stop := by
  rw [field, StopInfo.check] at h
  obtain ⟨delta, hdelta, hfields⟩ := object_eq_accept h
  obtain ⟨_, sequence, hmake, hsequence, rfl⟩ := seq_eq_accept_iff.mp hfields
  obtain ⟨reason, hreason, rfl⟩ := functor_eq_accept_iff.mp hmake
  exact .mk hdelta (.of_field hreason) (.of_field hsequence)

theorem BlockStartAt.of_ofMembers {kind : Text} {what : Json.Members} {block : BlockStart}
    (hwhat : lookup key ms = some (.obj what)) (hkind : lookup "type" what = some (.str kind))
    (h : BlockStart.ofMembers kind what = .accept block) : BlockStartAt ms key block := by
  rw [BlockStart.ofMembers] at h
  split at h
  case isTrue htext =>
    subst htext
    obtain ⟨_, hoptional, rfl⟩ := functor_eq_accept_iff.mp h
    rcases optional_eq_accept_iff.mp hoptional with ⟨habsent, rfl⟩ | ⟨v, t, hv, ht, rfl⟩
    · exact .emptyText hwhat hkind habsent
    · exact .text hwhat hkind (hv.trans (string_eq_accept ht))
  case isFalse htext =>
    split at h
    case isTrue htool =>
      subst htool
      obtain ⟨_, name, hmake, hnonEmpty, rfl⟩ := seq_eq_accept_iff.mp h
      obtain ⟨id, hid, rfl⟩ := functor_eq_accept_iff.mp hmake
      obtain ⟨hid, hidne⟩ := nonEmptyString_eq_accept hid
      obtain ⟨hname, hnamene⟩ := nonEmptyString_eq_accept hnonEmpty
      exact .toolUse hwhat hkind hid hname hidne hnamene
    case isFalse htool =>
      cases h
      exact .unsupported hwhat hkind htext htool

theorem BlockDeltaAt.of_ofMembers {kind : Text} {what : Json.Members} {delta : BlockDelta}
    (hwhat : lookup key ms = some (.obj what)) (hkind : lookup "type" what = some (.str kind))
    (h : BlockDelta.ofMembers kind what = .accept delta) : BlockDeltaAt ms key delta := by
  rw [BlockDelta.ofMembers] at h
  split at h
  case isTrue htext =>
    subst htext
    obtain ⟨t, ht, rfl⟩ := functor_eq_accept_iff.mp h
    exact .text hwhat hkind (string_eq_accept ht)
  case isFalse htext =>
    split at h
    case isTrue hinput =>
      subst hinput
      obtain ⟨fragment, hfragment, rfl⟩ := functor_eq_accept_iff.mp h
      exact .inputJson hwhat hkind (string_eq_accept hfragment)
    case isFalse hinput =>
      cases h
      exact .unsupported hwhat hkind htext hinput

/-! ## Events -/

namespace Event

theorem indexed_eq_accept {index : Number} {kind : Text} {what : Json.Members}
    (h : indexed ms key = .accept (index, kind, what)) :
    CountAt ms "index" (some index) ∧ lookup key ms = some (.obj what) ∧
      lookup "type" what = some (.str kind) := by
  obtain ⟨_, _, hmake, htyped, hpair⟩ := seq_eq_accept_iff.mp h
  obtain ⟨_, hindex, rfl⟩ := functor_eq_accept_iff.mp hmake
  cases hpair
  exact ⟨.of_field hindex, typed_eq_accept htyped⟩

/-- A block event is read from its index and the typed object that it carries. -/
theorem indexed_bind_eq_ok {f : Number × Text × Json.Members → Except (List Issue) Event}
    {e : Event} (h : ((indexed ms key).toExcept >>= f) = .ok e) :
    ∃ index kind what, CountAt ms "index" (some index) ∧ lookup key ms = some (.obj what) ∧
      lookup "type" what = some (.str kind) ∧ f (index, kind, what) = .ok e := by
  obtain ⟨⟨index, kind, what⟩, hindexed, hrest⟩ := Except.bind_eq_ok h
  obtain ⟨hindex, hwhat, hkind⟩ := indexed_eq_accept (toExcept_eq_ok_iff.mp hindexed)
  exact ⟨index, kind, what, hindex, hwhat, hkind, hrest⟩

/-- What is read as an event from the members of an object describes it. -/
theorem describes_of_ofMembers {type : Text} {e : Event} (htype : lookup "type" ms = some (.str type))
    (h : ofMembers type ms = .ok e) : Describes ms e := by
  unfold ofMembers at h
  split at h
  case isTrue hstart =>
    subst hstart
    obtain ⟨header, hheader, rfl⟩ := functor_eq_accept_iff.mp (toExcept_eq_ok_iff.mp h)
    exact .messageStart htype (.of_field hheader)
  split at h
  case isTrue hstart =>
    subst hstart
    obtain ⟨index, kind, what, hindex, hwhat, hkind, hrest⟩ := indexed_bind_eq_ok h
    obtain ⟨block, hblock, hlast⟩ := Except.bind_eq_ok hrest
    cases hlast
    exact .blockStart htype hindex (.of_ofMembers hwhat hkind (toExcept_eq_ok_iff.mp hblock))
  split at h
  case isTrue hdelta =>
    subst hdelta
    obtain ⟨index, kind, what, hindex, hwhat, hkind, hrest⟩ := indexed_bind_eq_ok h
    obtain ⟨delta, hdelta, hlast⟩ := Except.bind_eq_ok hrest
    cases hlast
    exact .blockDelta htype hindex (.of_ofMembers hwhat hkind (toExcept_eq_ok_iff.mp hdelta))
  split at h
  case isTrue hstop =>
    subst hstop
    obtain ⟨index, hindex, rfl⟩ := functor_eq_accept_iff.mp (toExcept_eq_ok_iff.mp h)
    exact .blockStop htype (.of_field hindex)
  split at h
  case isTrue hdelta =>
    subst hdelta
    obtain ⟨_, usage, hmake, husage, rfl⟩ := seq_eq_accept_iff.mp (toExcept_eq_ok_iff.mp h)
    obtain ⟨stop, hstop, rfl⟩ := functor_eq_accept_iff.mp hmake
    exact .messageDelta htype (.of_field hstop) (UsageAt.of_optionalOrNull husage)
  split at h
  case isTrue hstop =>
    subst hstop
    cases h
    exact .messageStop htype
  split at h
  case isTrue hping =>
    subst hping
    cases h
    exact .ping htype
  split at h
  case isTrue herror =>
    subst herror
    obtain ⟨⟨_, _⟩, hwhat, rfl⟩ := functor_eq_accept_iff.mp (toExcept_eq_ok_iff.mp h)
    obtain ⟨what, hwhat, hfields⟩ := object_eq_accept hwhat
    obtain ⟨_, message, hmake, hmessage, hpair⟩ := seq_eq_accept_iff.mp hfields
    obtain ⟨text, htext, rfl⟩ := functor_eq_accept_iff.mp hmake
    cases hpair
    exact .error htype hwhat (string_eq_accept htext) (string_eq_accept hmessage)
  case isFalse h1 h2 h3 h4 h5 h6 h7 h8 =>
    cases h
    refine .unknown htype ?_
    simp only [knownTypes, List.mem_cons, List.not_mem_nil, or_false, not_or]
    exact ⟨h1, h2, h3, h4, h5, h6, h7, h8⟩

theorem describes_of_ofJson {e : Event} (h : ofJson (.obj ms) = .ok e) : Describes ms e := by
  obtain ⟨⟨type, what⟩, htyped, hmembers⟩ := Except.bind_eq_ok h
  obtain ⟨hwhat, htype⟩ := typed_eq_accept (toExcept_eq_ok_iff.mp htyped)
  cases hwhat
  exact describes_of_ofMembers htype hmembers

/-- Reading accepts exactly the payloads that write an event. -/
theorem parse_eq_ok_iff_writes {p : Text} {e : Event} : parse p = .ok e ↔ Writes p e := by
  constructor
  · intro h
    obtain ⟨ms, hms, hjson⟩ := parse_eq_ok.mp h
    exact ⟨ms, hms, describes_of_ofJson hjson⟩
  · exact parse_of_writes

/-! ## What an event can say -/

/-- Whether an event, and the block or delta that it carries, has a kind that the relay knows. -/
def isKnown : Event → Bool
  | .blockStart _ (.unsupported _) => false
  | .blockDelta _ (.unsupported _) => false
  | .unknown _ => false
  | _ => true

end Event

theorem Number.isCount_zero : (Number.zero false).IsCount := by decide +kernel

theorem Number.isCount_plainZero {x : Number} (hint : x.isInteger = true)
    (hnonneg : x.isNonNegative = true) : x.plainZero.IsCount := by
  cases x with
  | finite negative m e =>
      cases m with
      | zero => exact isCount_zero
      | succ m => exact ⟨hint, hnonneg, rfl⟩
  | _ => cases hint

theorem CountAt.isCount {x : Number} (h : CountAt ms key (some x)) : x.IsCount := by
  cases h with
  | present _ hint hnonneg => exact Number.isCount_plainZero hint hnonneg

theorem CountAt.sendable {n : Option Number} (h : CountAt ms key n) :
    Field.ofOption n = .missing ∨ ∃ x : Number, x.IsCount ∧ Field.ofOption n = .value x := by
  cases n with
  | none => exact .inl rfl
  | some x => exact .inr ⟨x, h.isCount, rfl⟩

theorem UsageAt.sendable {u : Usage} (h : UsageAt ms key (some u)) : u.Sendable := by
  cases h with
  | present _ hinput houtput => exact ⟨hinput.sendable, houtput.sendable⟩

theorem HeaderAt.sendable {header : Header} (h : HeaderAt ms key header) :
    header.usage.Sendable := by
  cases h with
  | @mk _ _ _ _ usage _ _ _ _ husage =>
      cases usage with
      | none => exact ⟨.inl rfl, .inl rfl⟩
      | some u => exact husage.sendable

namespace Event

/-- What is read as an event of a known kind can be written again. -/
theorem Describes.sendable {e : Event} (h : Describes ms e) (hknown : e.isKnown = true) :
    e.Sendable := by
  cases h with
  | messageStart _ hheader => exact hheader.sendable
  | blockStart _ hindex hblock =>
      cases hblock with
      | toolUse _ _ _ _ hid hname => exact ⟨hindex.isCount, hid, hname⟩
      | unsupported => cases hknown
      | _ => exact hindex.isCount
  | blockDelta _ hindex hdelta =>
      cases hdelta with
      | unsupported => cases hknown
      | _ => exact hindex.isCount
  | blockStop _ hindex => exact hindex.isCount
  | messageDelta _ hstop husage =>
      cases hstop with
      | @mk _ reason sequence =>
          refine ⟨by cases reason <;> nofun, by cases sequence <;> nofun, ?_⟩
          rintro u hu
          obtain rfl := Option.mem_def.mp hu
          rcases husage with husage | ⟨-, hnone⟩
          · exact husage.sendable
          · cases hnone
  | unknown => cases hknown
  | _ => trivial

/-- The kind of a block or delta that a payload declares is known, or has no known name. -/
def KindKept : Event → Prop
  | .blockStart _ (.unsupported kind) => kind ≠ "text" ∧ kind ≠ "tool_use"
  | .blockDelta _ (.unsupported kind) => kind ≠ "text_delta" ∧ kind ≠ "input_json_delta"
  | _ => True

/-- No payload names a kind that is known and is read as one that is not. -/
theorem parse_kindKept {p : Text} {e : Event} (h : parse p = .ok e) : KindKept e := by
  obtain ⟨ms, -, hdescribes⟩ := parse_eq_ok_iff_writes.mp h
  cases hdescribes with
  | blockStart _ _ hblock =>
      cases hblock with
      | unsupported _ _ htext htool => exact ⟨htext, htool⟩
      | _ => trivial
  | blockDelta _ _ hdelta =>
      cases hdelta with
      | unsupported _ _ htext hinput => exact ⟨htext, hinput⟩
      | _ => trivial
  | _ => trivial

end Event

end ChatRelay
