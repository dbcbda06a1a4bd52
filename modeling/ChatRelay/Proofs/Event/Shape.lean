import ChatRelay.Event.Format
import ChatRelay.Proofs.Result

/-!
# What the payload of an event says

`Event.Describes` says member by member which objects stand for which events: the members that
matter and what they may be, whatever else the object holds. A member that may be left out is
described by a relation of its own (`CountAt`, `UsageAt`, `TextOrNullAt`), so that the rest reads
like the wire format. `Event.Writes` adds the JSON text around it. Everything so described is read
back (`Event.parse_of_writes`).
-/

namespace ChatRelay

open Json (lookup)

/-! ## Members -/

/-- A count that may be left out. Both zeros count as zero. -/
inductive CountAt (ms : Json.Members) (key : Text) : Option Number → Prop
  | absent : lookup key ms = none → CountAt ms key none
  | present {x : Number} : lookup key ms = some (.num x) → x.isInteger → x.isNonNegative →
      CountAt ms key (some x.plainZero)

/-- Token counts that may be left out, as may either of them. -/
inductive UsageAt (ms : Json.Members) (key : Text) : Option Usage → Prop
  | absent : lookup key ms = none → UsageAt ms key none
  | present {counts : Json.Members} {input output : Option Number} :
      lookup key ms = some (.obj counts) → CountAt counts "input_tokens" input →
      CountAt counts "output_tokens" output →
      UsageAt ms key (some ⟨.ofOption input, .ofOption output⟩)

/-- A text that may be `null` or left out, which says the same. -/
inductive TextOrNullAt (ms : Json.Members) (key : Text) : Option Text → Prop
  | absent : lookup key ms = none → TextOrNullAt ms key none
  | null : lookup key ms = some .null → TextOrNullAt ms key none
  | present {t : Text} : lookup key ms = some (.str t) → TextOrNullAt ms key (some t)

/-- A message's header. -/
inductive HeaderAt (ms : Json.Members) (key : Text) : Header → Prop
  | mk {message : Json.Members} {id model role : Text} {usage : Option Usage} :
      lookup key ms = some (.obj message) → lookup "id" message = some (.str id) →
      lookup "model" message = some (.str model) → lookup "role" message = some (.str role) →
      UsageAt message "usage" usage →
      HeaderAt ms key ⟨id, model, role, usage.getD ⟨.missing, .missing⟩⟩

/-- The start of a block. A text block may leave out its first text; the id and the name of a tool
call are not empty. -/
inductive BlockStartAt (ms : Json.Members) (key : Text) : BlockStart → Prop
  | text {block : Json.Members} {t : Text} :
      lookup key ms = some (.obj block) → lookup "type" block = some (.str "text") →
      lookup "text" block = some (.str t) → BlockStartAt ms key (.text t)
  | emptyText {block : Json.Members} :
      lookup key ms = some (.obj block) → lookup "type" block = some (.str "text") →
      lookup "text" block = none → BlockStartAt ms key (.text [])
  | toolUse {block : Json.Members} {id name : Text} :
      lookup key ms = some (.obj block) → lookup "type" block = some (.str "tool_use") →
      lookup "id" block = some (.str id) → lookup "name" block = some (.str name) →
      id ≠ [] → name ≠ [] → BlockStartAt ms key (.toolUse id name)
  | unsupported {block : Json.Members} {kind : Text} :
      lookup key ms = some (.obj block) → lookup "type" block = some (.str kind) →
      kind ≠ "text" → kind ≠ "tool_use" → BlockStartAt ms key (.unsupported kind)

/-- A piece of the content of a block. -/
inductive BlockDeltaAt (ms : Json.Members) (key : Text) : BlockDelta → Prop
  | text {delta : Json.Members} {t : Text} :
      lookup key ms = some (.obj delta) → lookup "type" delta = some (.str "text_delta") →
      lookup "text" delta = some (.str t) → BlockDeltaAt ms key (.text t)
  | inputJson {delta : Json.Members} {fragment : Text} :
      lookup key ms = some (.obj delta) → lookup "type" delta = some (.str "input_json_delta") →
      lookup "partial_json" delta = some (.str fragment) → BlockDeltaAt ms key (.inputJson fragment)
  | unsupported {delta : Json.Members} {kind : Text} :
      lookup key ms = some (.obj delta) → lookup "type" delta = some (.str kind) →
      kind ≠ "text_delta" → kind ≠ "input_json_delta" → BlockDeltaAt ms key (.unsupported kind)

/-- Why a message ended. -/
inductive StopInfoAt (ms : Json.Members) (key : Text) : StopInfo → Prop
  | mk {delta : Json.Members} {reason sequence : Option Text} :
      lookup key ms = some (.obj delta) → TextOrNullAt delta "stop_reason" reason →
      TextOrNullAt delta "stop_sequence" sequence →
      StopInfoAt ms key ⟨.orNull reason, .orNull sequence⟩

/-! ## Events -/

/-- The types of events that the relay knows. -/
def Event.knownTypes : List Text :=
  ["message_start", "content_block_start", "content_block_delta", "content_block_stop",
    "message_delta", "message_stop", "ping", "error"]

/-- The members of an object say that an event happens. -/
inductive Event.Describes (ms : Json.Members) : Event → Prop
  | messageStart {header : Header} : lookup "type" ms = some (.str "message_start") →
      HeaderAt ms "message" header → Describes ms (.messageStart header)
  | blockStart {index : Number} {block : BlockStart} :
      lookup "type" ms = some (.str "content_block_start") → CountAt ms "index" (some index) →
      BlockStartAt ms "content_block" block → Describes ms (.blockStart index block)
  | blockDelta {index : Number} {delta : BlockDelta} :
      lookup "type" ms = some (.str "content_block_delta") → CountAt ms "index" (some index) →
      BlockDeltaAt ms "delta" delta → Describes ms (.blockDelta index delta)
  | blockStop {index : Number} : lookup "type" ms = some (.str "content_block_stop") →
      CountAt ms "index" (some index) → Describes ms (.blockStop index)
  | messageDelta {stop : StopInfo} {usage : Option Usage} :
      lookup "type" ms = some (.str "message_delta") → StopInfoAt ms "delta" stop →
      (UsageAt ms "usage" usage ∨ lookup "usage" ms = some .null ∧ usage = none) →
      Describes ms (.messageDelta stop usage)
  | messageStop : lookup "type" ms = some (.str "message_stop") → Describes ms .messageStop
  | ping : lookup "type" ms = some (.str "ping") → Describes ms .ping
  | error {what : Json.Members} {type message : Text} : lookup "type" ms = some (.str "error") →
      lookup "error" ms = some (.obj what) → lookup "type" what = some (.str type) →
      lookup "message" what = some (.str message) → Describes ms (.error type message)
  | unknown {type : Text} : lookup "type" ms = some (.str type) → type ∉ knownTypes →
      Describes ms (.unknown type)

/-- A JSON text of an object that describes an event. -/
def Event.Writes (payload : Text) (e : Event) : Prop :=
  ∃ ms, Json.parse? payload = some (.obj ms) ∧ Describes ms e

/-! ## Checks that accept -/

namespace Checked

variable {α β : Type}

theorem map_accept (f : α → β) (a : α) : (accept a).map f = accept (f a) := rfl

theorem functor_accept (f : α → β) (a : α) : f <$> accept a = accept (f a) := rfl

theorem seq_accept (f : α → β) (a : α) : accept f <*> accept a = accept (f a) := rfl

end Checked

namespace Check

variable {path : List PathStep} {ms : Json.Members} {key : Text}

theorem field_string {t : Text} (h : lookup key ms = some (.str t)) :
    field string path ms key = .accept t := by
  rw [field, h]
  rfl

theorem field_nonEmptyString {t : Text} (h : lookup key ms = some (.str t)) (hne : t ≠ []) :
    field nonEmptyString path ms key = .accept t := by
  rw [field, h]
  cases t with
  | nil => exact absurd rfl hne
  | cons u t => rfl

theorem count_accept {x : Number} (hint : x.isInteger) (hnonneg : x.isNonNegative) :
    count path (some (Json.num x)) = .accept x.plainZero := by
  cases x with
  | finite negative m e =>
      simp [count, number, Shaped.shape, Json.shape, hint, hnonneg, Checked.flag, Checked.map,
        Checked.accept]
  | _ => cases hint

theorem field_count {x : Number} (h : CountAt ms key (some x)) :
    field count path ms key = .accept x := by
  cases h with
  | present hx hint hnonneg => rw [field, hx, count_accept hint hnonneg]

theorem field_optional_absent {α : Type} {check : Check α} (h : lookup key ms = none) :
    field (optional check) path ms key = .accept none := by
  rw [field, h]
  rfl

theorem field_optional_present {α : Type} {check : Check α} {v : Json}
    (h : lookup key ms = some v) :
    field (optional check) path ms key = (check (path ++ [.key key]) (some v)).map some := by
  rw [field, h]
  rfl

theorem field_optional_count {n : Option Number} (h : CountAt ms key n) :
    field (optional count) path ms key = .accept n := by
  cases h with
  | absent h => exact field_optional_absent h
  | present h hint hnonneg =>
      rw [field_optional_present h, count_accept hint hnonneg, Checked.map_accept]

theorem field_textOrNull {t : Option Text} (h : TextOrNullAt ms key t) :
    field (optionalOrNull string) path ms key = .accept t := by
  cases h with
  | absent h => rw [field, h]; rfl
  | null h => rw [field, h]; rfl
  | present h => rw [field, h]; rfl

/-- A check of the members of an object, where an object stands. -/
theorem object_obj {α : Type} (fields : List PathStep → Json.Members → Checked α) :
    object fields path (some (.obj ms)) = fields path ms := rfl

end Check

open Check Checked

variable {path : List PathStep} {ms : Json.Members} {key : Text}

theorem Usage.check_obj {input output : Option Number} (hin : CountAt ms "input_tokens" input)
    (hout : CountAt ms "output_tokens" output) :
    Usage.check path (some (.obj ms)) = .accept ⟨.ofOption input, .ofOption output⟩ := by
  rw [Usage.check, object_obj, field_optional_count hin, field_optional_count hout, functor_accept,
    seq_accept]

theorem field_usage {u : Option Usage} (h : UsageAt ms key u) :
    field (optional Usage.check) path ms key = .accept u := by
  cases h with
  | absent h => exact field_optional_absent h
  | present h hin hout =>
      rw [field_optional_present h, Usage.check_obj hin hout, map_accept]

theorem field_usageOrNull {u : Option Usage}
    (h : UsageAt ms key u ∨ lookup key ms = some .null ∧ u = none) :
    field (optionalOrNull Usage.check) path ms key = .accept u := by
  rcases h with h | ⟨h, rfl⟩
  · cases h with
    | absent h => rw [field, h]; rfl
    | @present counts input output h hin hout =>
        rw [field, h]
        show ((Usage.check _ (some (.obj counts))).map some |>.map some).map Option.join = _
        rw [Usage.check_obj hin hout]
        rfl
  · rw [field, h]
    rfl

theorem field_header {h : Header} (hh : HeaderAt ms key h) :
    field Header.check path ms key = .accept h := by
  cases hh with
  | mk hmessage hid hmodel hrole husage =>
      rw [field, hmessage, Header.check, object_obj, field_string hid, field_string hmodel,
        field_string hrole, field_usage husage]
      rfl

theorem field_stopInfo {stop : StopInfo} (h : StopInfoAt ms key stop) :
    field StopInfo.check path ms key = .accept stop := by
  cases h with
  | mk hdelta hreason hsequence =>
      rw [field, hdelta, StopInfo.check, object_obj, field_textOrNull hreason,
        field_textOrNull hsequence]
      rfl

theorem field_typed {what : Json.Members} {kind : Text} (h : lookup key ms = some (.obj what))
    (hkind : lookup "type" what = some (.str kind)) :
    field typed path ms key = .accept (kind, what) := by
  rw [field, h, typed, object_obj, field_string hkind]
  rfl

/-! ## Reading an event back -/

theorem BlockStartAt.read {b : BlockStart} (h : BlockStartAt ms key b) :
    ∃ kind what, field typed [] ms key = .accept (kind, what) ∧
      BlockStart.ofMembers kind what = .accept b := by
  cases h with
  | @text block t hblock hkind ht =>
      refine ⟨"text", block, field_typed hblock hkind, ?_⟩
      rw [BlockStart.ofMembers, if_pos rfl, field_optional_present ht]
      rfl
  | @emptyText block hblock hkind ht =>
      refine ⟨"text", block, field_typed hblock hkind, ?_⟩
      rw [BlockStart.ofMembers, if_pos rfl, field_optional_absent ht]
      rfl
  | @toolUse block id name hblock hkind hid hname hidne hnamene =>
      refine ⟨"tool_use", block, field_typed hblock hkind, ?_⟩
      rw [BlockStart.ofMembers, if_neg (by decide), if_pos rfl, field_nonEmptyString hid hidne,
        field_nonEmptyString hname hnamene]
      rfl
  | @unsupported block kind hblock hkind htext htool =>
      refine ⟨kind, block, field_typed hblock hkind, ?_⟩
      rw [BlockStart.ofMembers, if_neg htext, if_neg htool]

theorem BlockDeltaAt.read {d : BlockDelta} (h : BlockDeltaAt ms key d) :
    ∃ kind what, field typed [] ms key = .accept (kind, what) ∧
      BlockDelta.ofMembers kind what = .accept d := by
  cases h with
  | @text delta t hdelta hkind ht =>
      refine ⟨"text_delta", delta, field_typed hdelta hkind, ?_⟩
      rw [BlockDelta.ofMembers, if_pos rfl, field_string ht]
      rfl
  | @inputJson delta fragment hdelta hkind ht =>
      refine ⟨"input_json_delta", delta, field_typed hdelta hkind, ?_⟩
      rw [BlockDelta.ofMembers, if_neg (by decide), if_pos rfl, field_string ht]
      rfl
  | @unsupported delta kind hdelta hkind htext hinput =>
      refine ⟨kind, delta, field_typed hdelta hkind, ?_⟩
      rw [BlockDelta.ofMembers, if_neg htext, if_neg hinput]

theorem Event.indexed_accept {index : Number} {kind : Text} {what : Json.Members}
    (hindex : CountAt ms "index" (some index)) (h : field typed [] ms key = .accept (kind, what)) :
    Event.indexed ms key = .accept (index, kind, what) := by
  rw [Event.indexed, field_count hindex, h]
  rfl

theorem Event.ofJson_eq_ofMembers {type : Text} (h : lookup "type" ms = some (.str type)) :
    Event.ofJson (.obj ms) = Event.ofMembers type ms := by
  rw [Event.ofJson, typed, object_obj, field_string h]
  rfl

/-- What describes an event is read as that event. -/
theorem Event.ofJson_of_describes {e : Event} (h : Event.Describes ms e) :
    Event.ofJson (.obj ms) = .ok e := by
  cases h with
  | messageStart htype hheader =>
      rw [ofJson_eq_ofMembers htype, ofMembers, if_pos rfl, field_header hheader]
      rfl
  | blockStart htype hindex hblock =>
      obtain ⟨kind, what, htyped, hread⟩ := hblock.read
      rw [ofJson_eq_ofMembers htype, ofMembers, if_neg (by decide), if_pos rfl,
        indexed_accept hindex htyped]
      show Except.bind (BlockStart.ofMembers kind what).toExcept _ = _
      rw [hread]
      rfl
  | blockDelta htype hindex hdelta =>
      obtain ⟨kind, what, htyped, hread⟩ := hdelta.read
      rw [ofJson_eq_ofMembers htype, ofMembers, if_neg (by decide), if_neg (by decide), if_pos rfl,
        indexed_accept hindex htyped]
      show Except.bind (BlockDelta.ofMembers kind what).toExcept _ = _
      rw [hread]
      rfl
  | blockStop htype hindex =>
      rw [ofJson_eq_ofMembers htype, ofMembers, if_neg (by decide), if_neg (by decide),
        if_neg (by decide), if_pos rfl, field_count hindex]
      rfl
  | messageDelta htype hstop husage =>
      rw [ofJson_eq_ofMembers htype, ofMembers, if_neg (by decide), if_neg (by decide),
        if_neg (by decide), if_neg (by decide), if_pos rfl, field_stopInfo hstop,
        field_usageOrNull husage]
      rfl
  | messageStop htype =>
      rw [ofJson_eq_ofMembers htype]
      rfl
  | ping htype =>
      rw [ofJson_eq_ofMembers htype]
      rfl
  | @error what type message htype herror hwhat hmessage =>
      rw [ofJson_eq_ofMembers htype, ofMembers, if_neg (by decide), if_neg (by decide),
        if_neg (by decide), if_neg (by decide), if_neg (by decide), if_neg (by decide),
        if_neg (by decide), if_pos rfl, field, herror, object_obj, field_string hwhat,
        field_string hmessage]
      rfl
  | @unknown type htype hknown =>
      simp only [knownTypes, List.mem_cons, List.not_mem_nil, or_false, not_or] at hknown
      obtain ⟨h1, h2, h3, h4, h5, h6, h7, h8⟩ := hknown
      rw [ofJson_eq_ofMembers htype, ofMembers, if_neg h1, if_neg h2, if_neg h3, if_neg h4,
        if_neg h5, if_neg h6, if_neg h7, if_neg h8]

theorem Event.ofJson_eq_ok {v : Json} {e : Event} (h : Event.ofJson v = .ok e) :
    ∃ ms, v = .obj ms := by
  cases v with
  | obj ms => exact ⟨ms, rfl⟩
  | _ => cases h

/-- Only the text of an object is read as an event. -/
theorem Event.parse_eq_ok {p : Text} {e : Event} :
    Event.parse p = .ok e ↔
      ∃ ms, Json.parse? p = some (.obj ms) ∧ Event.ofJson (.obj ms) = .ok e := by
  constructor
  · intro h
    rw [parse] at h
    cases hp : Json.parse? p with
    | none => rw [hp] at h; cases h
    | some v =>
        simp only [hp] at h
        cases hv : ofJson v with
        | error issues => rw [hv] at h; cases h
        | ok e' =>
            rw [hv] at h
            cases h
            obtain ⟨ms, rfl⟩ := ofJson_eq_ok hv
            exact ⟨ms, rfl, hv⟩
  · rintro ⟨ms, hp, hv⟩
    simp only [parse, hp, hv]

/-- A payload that writes an event is read as that event. -/
theorem Event.parse_of_writes {p : Text} {e : Event} (h : Event.Writes p e) :
    Event.parse p = .ok e := by
  obtain ⟨ms, hms, hdescribes⟩ := h
  exact parse_eq_ok.mpr ⟨ms, hms, ofJson_of_describes hdescribes⟩

/-! ## Writing an event -/

/-- A whole number that is not negative, zero without a sign. -/
structure Number.IsCount (x : Number) : Prop where
  integer : x.isInteger = true
  nonNegative : x.isNonNegative = true
  plain : x.plainZero = x

instance (x : Number) : Decidable x.IsCount :=
  decidable_of_iff (x.isInteger = true ∧ x.isNonNegative = true ∧ x.plainZero = x)
    ⟨fun ⟨h, h', h''⟩ => ⟨h, h', h''⟩, fun ⟨h, h', h''⟩ => ⟨h, h', h''⟩⟩

/-- Token counts, each of them a count or left out. -/
structure Usage.Sendable (u : Usage) : Prop where
  input : u.input = .missing ∨ ∃ x : Number, x.IsCount ∧ u.input = .value x
  output : u.output = .missing ∨ ∃ x : Number, x.IsCount ∧ u.output = .value x

/-- The events of a known type, with known kinds of blocks and deltas, that can be written. -/
def Event.Sendable : Event → Prop
  | .messageStart header => header.usage.Sendable
  | .blockStart index (.text _) => index.IsCount
  | .blockStart index (.toolUse id name) => index.IsCount ∧ id ≠ [] ∧ name ≠ []
  | .blockStart _ (.unsupported _) => False
  | .blockDelta index (.text _) => index.IsCount
  | .blockDelta index (.inputJson _) => index.IsCount
  | .blockDelta _ (.unsupported _) => False
  | .blockStop index => index.IsCount
  | .messageDelta stop usage =>
    stop.reason ≠ .missing ∧ stop.sequence ≠ .missing ∧ ∀ u ∈ usage, u.Sendable
  | .messageStop => True
  | .ping => True
  | .error _ _ => True
  | .unknown _ => False

theorem CountAt.of_isCount {x : Number} (hx : x.IsCount) (h : lookup key ms = some (.num x)) :
    CountAt ms key (some x) := by
  have hpresent := CountAt.present h hx.integer hx.nonNegative
  rwa [hx.plain] at hpresent

theorem UsageAt.of_toJson {u : Usage} (hu : u.Sendable) (h : lookup key ms = some u.toJson) :
    UsageAt ms key (some u) := by
  obtain ⟨input, output⟩ := u
  rcases hu with ⟨rfl | ⟨x, hx, rfl⟩, rfl | ⟨y, hy, rfl⟩⟩
  · exact .present h (.absent rfl) (.absent rfl)
  · exact .present h (.absent rfl) (.of_isCount hy rfl)
  · exact .present h (.of_isCount hx rfl) (.absent rfl)
  · exact .present h (.of_isCount hx rfl) (.of_isCount hy rfl)

theorem Field.toJson?_orNull (t : Option Text) :
    (Field.orNull t).toJson? .str = some (Json.ofText? t) := by
  cases t <;> rfl

theorem TextOrNullAt.of_ofText? {t : Option Text} (h : lookup key ms = some (Json.ofText? t)) :
    TextOrNullAt ms key t := by
  cases t with
  | none => exact .null h
  | some t => exact .present h

theorem Field.exists_orNull {x : Field Text} (h : x ≠ .missing) : ∃ t, x = .orNull t := by
  cases x with
  | missing => exact absurd rfl h
  | null => exact ⟨none, rfl⟩
  | value t => exact ⟨some t, rfl⟩

theorem StopInfoAt.of_toJson {stop : StopInfo} (hreason : stop.reason ≠ .missing)
    (hsequence : stop.sequence ≠ .missing)
    (h : lookup key ms = some (.object [("stop_reason", stop.reason.toJson? .str),
      ("stop_sequence", stop.sequence.toJson? .str)])) : StopInfoAt ms key stop := by
  obtain ⟨reason, sequence⟩ := stop
  obtain ⟨reason, rfl⟩ := Field.exists_orNull hreason
  obtain ⟨sequence, rfl⟩ := Field.exists_orNull hsequence
  rw [Field.toJson?_orNull, Field.toJson?_orNull] at h
  exact .mk h (.of_ofText? rfl) (.of_ofText? rfl)

/-- The object that an event is written as describes the event. -/
theorem Event.describes_toJson {e : Event} (h : e.Sendable) :
    ∃ ms, e.toJson = .obj ms ∧ Event.Describes ms e := by
  refine ⟨_, rfl, ?_⟩
  cases e with
  | messageStart header =>
      exact .messageStart rfl (.mk rfl rfl rfl rfl (.of_toJson h rfl))
  | blockStart index block =>
      cases block with
      | text t => exact .blockStart rfl (.of_isCount h rfl) (.text rfl rfl rfl)
      | toolUse id name =>
          obtain ⟨hindex, hid, hname⟩ := h
          exact .blockStart rfl (.of_isCount hindex rfl) (.toolUse rfl rfl rfl rfl hid hname)
      | unsupported kind => exact absurd h id
  | blockDelta index delta =>
      cases delta with
      | text t => exact .blockDelta rfl (.of_isCount h rfl) (.text rfl rfl rfl)
      | inputJson t => exact .blockDelta rfl (.of_isCount h rfl) (.inputJson rfl rfl rfl)
      | unsupported kind => exact absurd h id
  | blockStop index => exact .blockStop rfl (.of_isCount h rfl)
  | messageDelta stop usage =>
      obtain ⟨hreason, hsequence, husage⟩ := h
      cases usage with
      | none => exact .messageDelta rfl (.of_toJson hreason hsequence rfl) (Or.inr ⟨rfl, rfl⟩)
      | some u =>
          exact .messageDelta rfl (.of_toJson hreason hsequence rfl)
            (Or.inl (.of_toJson (husage u rfl) rfl))
  | messageStop => exact .messageStop rfl
  | ping => exact .ping rfl
  | error type message => exact .error rfl rfl rfl rfl
  | unknown type => exact absurd h id

/-- The text of an event writes the event, where it is read back as JSON. -/
theorem Event.writes_render {e : Event} (h : e.Sendable)
    (hparse : Json.parse? e.toJson.render = some e.toJson) : e.Writes e.toJson.render := by
  obtain ⟨ms, hms, hdescribes⟩ := describes_toJson h
  exact ⟨ms, hms ▸ hparse, hdescribes⟩

/-- The payload of a stream that sends an event. -/
def Event.payload (e : Event) : Text := e.toJson.render

end ChatRelay
