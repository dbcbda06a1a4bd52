import ChatRelay.Console.Run
import ChatRelay.Proofs.Console.Turns
import Mathlib.Data.List.DropRight

/-!
# What the interactive mode remembers

A run of the interactive mode leaves a journal: what every line came to (`follow`). The journal alone
says what the next prompt sends. The messages are the exchanges since the last reset, then the prompt;
the model is the last one that a line named, and the system prompt never changes (`Asks`).

The session knows this in another way, by its thread and the histories that the service keeps. What
ties the two together is `Remembers`: the thread of the session holds what the journal recalls, and
threads whose ids were not given out yet hold nothing. That is why a reset forgets: the session goes
on with a new id. Every line keeps this (`Remembers.step`), so every run does.
-/

namespace ChatRelay.Console

/-! ## Journals -/

/-- What a line came to: nothing, a command, or a turn with the response that completed it. -/
inductive Entry where
  | blank
  | command (c : Command)
  | turn (prompt : Text) (reply : Option Response)

namespace Entry

/-- Whether an entry is a reset. -/
def isReset : Entry → Bool
  | .command .reset => true
  | _ => false

/-- The messages of a turn that was completed by a response with some content. -/
def exchange : Entry → List Message
  | .turn prompt (some r) =>
    if r.content.isEmpty then [] else [⟨.user, .text prompt⟩, r.toMessage]
  | _ => []

/-- The model that an entry names. -/
def model? : Entry → Option Text
  | .command (.model argument) => nonEmpty? argument
  | _ => none

end Entry

/-- The exchanges since the last reset. -/
def recalled (entries : List Entry) : List Message :=
  (entries.rtakeWhile fun e => !e.isReset).flatMap Entry.exchange

/-- The model that was named last. -/
def chosen (entries : List Entry) : Option Text := (entries.filterMap Entry.model?).getLast?

theorem recalled_concat (entries : List Entry) (e : Entry) :
    recalled (entries ++ [e]) = if e.isReset then [] else recalled entries ++ e.exchange := by
  rw [recalled]
  cases hreset : e.isReset with
  | true => rw [List.rtakeWhile_concat_neg _ _ _ (by simp [hreset])]; rfl
  | false =>
      rw [List.rtakeWhile_concat_pos _ _ _ (by simp [hreset]), List.flatMap_append,
        List.flatMap_singleton]
      rfl

theorem chosen_concat (entries : List Entry) (e : Entry) :
    chosen (entries ++ [e]) = (e.model? <|> chosen entries) := by
  rw [chosen, List.filterMap_append, List.getLast?_append]
  cases hmodel : e.model? with
  | none => rw [List.filterMap_cons_none hmodel]; rfl
  | some model => rw [List.filterMap_cons_some hmodel]; rfl

/-- What a turn records is its exchange. -/
theorem messages_recorded_self (threads : Threads) (id t : Text) (reply : Option Response) :
    (Turn.recorded threads id ⟨.user, .text t⟩ reply).messages id
      = threads.messages id ++ (Entry.turn t reply).exchange := by
  cases reply with
  | none => exact (List.append_nil _).symm
  | some r =>
      simp only [Turn.recorded, Entry.exchange]
      split
      · exact (List.append_nil _).symm
      · exact Threads.messages_put_self ..

/-- What a line comes to in a session. -/
def entry (setup : Setup) (session : Session) (line : Text) : Entry :=
  match Line.read line with
  | .blank => .blank
  | .command c => .command c
  | .prompt t => .turn t (reply? setup session t)

/-- What lines come to, up to one that says to leave, and the session behind them if there is one. -/
def follow (setup : Setup) : Session → List Text → List Entry × Option Session
  | session, [] => ([], some session)
  | session, line :: lines =>
    match (handleLine setup session line).2.2 with
    | none => ([entry setup session line], none)
    | some next =>
      (entry setup session line :: (follow setup next lines).1, (follow setup next lines).2)

/-! ## Lines -/

section

variable {setup : Setup} {session next : Session} {line t : Text}

theorem Line.read_prompt (h : Line.read line = .prompt t) : t = line.trim ∧ t.trimmed? = some t := by
  unfold Line.read at h
  dsimp only at h
  split at h
  · cases h
  · split at h
    · cases h
    · rename_i hne _
      cases h
      refine ⟨rfl, Text.trimmed?_eq_some.mpr ⟨Text.trim_trim line, ?_⟩⟩
      rintro hnil
      rw [hnil] at hne
      exact hne rfl

/-- Only one command ends the session. -/
theorem handleLine_none :
    (handleLine setup session line).2.2 = none ↔ Line.read line = .command .leave := by
  rw [handleLine]
  cases hline : Line.read line with
  | blank | prompt t => simp
  | command c => cases c <;> simp [obey]

theorem handleLines_append (setup : Setup) (session : Session) (lines more : List Text) :
    handleLines setup session (lines ++ more) =
      match (follow setup session lines).2 with
      | none => handleLines setup session lines
      | some next =>
        ((handleLines setup session lines).1 ++ (handleLines setup next more).1,
          (handleLines setup session lines).2 ++ (handleLines setup next more).2) := by
  induction lines generalizing session with
  | nil => rfl
  | cons line lines ih =>
      rw [List.cons_append, handleLines, handleLines, follow]
      obtain ⟨output, calls, next⟩ := handleLine setup session line
      cases next with
      | none => rfl
      | some next =>
          dsimp only
          rw [ih]
          cases (follow setup next lines).2 with
          | none => rfl
          | some last => simp

theorem follow_leaves (setup : Setup) (session : Session) (lines : List Text) :
    (follow setup session lines).2 = none ↔ ∃ line ∈ lines, Line.read line = .command .leave := by
  induction lines generalizing session with
  | nil => simp [follow]
  | cons line lines ih =>
      have hleave : (handleLine setup session line).2.2 = none ↔ Line.read line = .command .leave :=
        handleLine_none
      rw [follow, List.exists_mem_cons_iff, ← hleave]
      cases hnext : (handleLine setup session line).2.2 with
      | none => simp
      | some next => simp [ih]

end

/-! ## Sessions -/

/-- Ids of new threads, up to a number of them: nothing in them is to be trimmed, no two are the same,
and none is the thread that the environment names. -/
structure NewIds (ids : Nat → Text) (environment : Option Text) (limit : Nat) : Prop where
  written : ∀ i ≤ limit, (ids i).trimmed? = some (ids i)
  apart : ∀ i j, i < j → j ≤ limit → ids i ≠ ids j
  other : ∀ i ≤ limit, environment ≠ some (ids i)

/-- A session knows what its journal tells: its thread holds what is recalled, its model is the one
that was chosen, and no thread that may come yet is its own or holds anything. -/
structure Remembers (setup : Setup) (model : Option Text) (limit : Nat) (session : Session)
    (entries : List Entry) : Prop where
  thread : ∃ id, session.thread = some id ∧ id.trimmed? = some id ∧
    session.memory.threads.messages id = recalled entries ∧
    ∀ i, session.memory.issued ≤ i → i ≤ limit → setup.runtime.ids i ≠ id
  unused : ∀ i, session.memory.issued ≤ i → i ≤ limit →
    session.memory.threads.messages (setup.runtime.ids i) = []
  model : session.model = (chosen entries <|> model)
  issued : session.memory.issued ≤ entries.length + 1

namespace Remembers

variable {setup : Setup} {model environment : Option Text} {limit : Nat} {session next : Session}
  {entries : List Entry} {line : Text}

/-- An entry of no consequence. -/
theorem pass (h : Remembers setup model limit session entries) {e : Entry}
    (hreset : e.isReset = false) (hexchange : e.exchange = []) (hmodel : e.model? = none) :
    Remembers setup model limit session (entries ++ [e]) := by
  obtain ⟨hthread, hunused, hchosen, hissued⟩ := h
  refine ⟨?_, hunused, ?_, ?_⟩
  · rwa [recalled_concat, hreset, if_neg Bool.false_ne_true, hexchange, List.append_nil]
  · rw [hchosen, chosen_concat, hmodel]
    rfl
  · rw [List.length_append]
    omega

theorem reset (h : Remembers setup model limit session entries)
    (hids : NewIds setup.runtime.ids environment limit) (hroom : entries.length < limit) :
    Remembers setup model limit
      { session with
        thread := some (setup.runtime.ids session.memory.issued)
        memory := { session.memory with issued := session.memory.issued + 1 } }
      (entries ++ [.command .reset]) := by
  obtain ⟨-, hunused, hchosen, hissued⟩ := h
  have hbound : session.memory.issued ≤ limit := by omega
  refine ⟨⟨_, rfl, hids.written _ hbound, ?_, ?_⟩, ?_, ?_, ?_⟩
  · rw [recalled_concat]
    exact hunused _ (Nat.le_refl _) hbound
  · exact fun i hi hlimit => (hids.apart _ i hi hlimit).symm
  · exact fun i hi hlimit => hunused i (Nat.le_of_succ_le hi) hlimit
  · rw [chosen_concat]
    exact hchosen
  · rw [List.length_append]
    exact Nat.succ_le_succ hissued

theorem choose (h : Remembers setup model limit session entries) (argument : Text) :
    Remembers setup model limit { session with model := nonEmpty? argument <|> session.model }
      (entries ++ [.command (.model argument)]) := by
  obtain ⟨hthread, hunused, hchosen, hissued⟩ := h
  refine ⟨?_, hunused, ?_, ?_⟩
  · rw [recalled_concat]
    rwa [← List.append_nil (recalled entries)] at hthread
  · rw [chosen_concat]
    show (nonEmpty? argument <|> session.model) = ((nonEmpty? argument <|> chosen entries) <|> model)
    rw [hchosen]
    cases nonEmpty? argument <;> rfl
  · rw [List.length_append]
    exact Nat.le_succ_of_le hissued

theorem turn (h : Remembers setup model limit session entries) {t : Text}
    (ht : t.trimmed? = some t) :
    Remembers setup model limit (send setup session "cli-repl" t).2.2
      (entries ++ [.turn t (reply? setup session t)]) := by
  obtain ⟨⟨id, hthread, hid, hmessages, hother⟩, hunused, hchosen, hissued⟩ := h
  rw [send_session hthread hid ht]
  have hlength :
      session.memory.issued ≤ (entries ++ [Entry.turn t (reply? setup session t)]).length + 1 := by
    rw [List.length_append]
    exact Nat.le_succ_of_le hissued
  have hmodel : session.model
      = (chosen (entries ++ [Entry.turn t (reply? setup session t)]) <|> model) := by
    rw [hchosen, chosen_concat]
    rfl
  refine ⟨⟨id, rfl, hid, ?_, hother⟩, fun i hi hlimit => ?_, hmodel, hlength⟩
  · rw [recalled_concat]
    show (Turn.recorded session.memory.threads id ⟨.user, .text t⟩ (reply? setup session t)).messages id
      = recalled entries ++ (Entry.turn t (reply? setup session t)).exchange
    rw [messages_recorded_self, hmessages]
  · exact (Turn.messages_recorded_other (hother i hi hlimit)).trans (hunused i hi hlimit)

/-- What a line came to is remembered. -/
theorem step (h : Remembers setup model limit session entries)
    (hids : NewIds setup.runtime.ids environment limit) (hroom : entries.length < limit)
    (hnext : (handleLine setup session line).2.2 = some next) :
    Remembers setup model limit next (entries ++ [entry setup session line]) := by
  rw [handleLine] at hnext
  rw [entry]
  cases hline : Line.read line with
  | blank =>
      rw [hline] at hnext
      cases hnext
      exact h.pass rfl rfl rfl
  | prompt t =>
      rw [hline] at hnext
      cases hnext
      exact h.turn (Line.read_prompt hline).2
  | command c =>
      rw [hline] at hnext
      cases c with
      | leave => cases hnext
      | thread | unknown word =>
          cases hnext
          exact h.pass rfl rfl rfl
      | reset =>
          cases hnext
          exact h.reset hids hroom
      | model argument =>
          cases hnext
          exact h.choose argument

theorem follow {lines : List Text} (h : Remembers setup model limit session entries)
    (hids : NewIds setup.runtime.ids environment limit)
    (hroom : entries.length + lines.length ≤ limit)
    (hnext : (follow setup session lines).2 = some next) :
    Remembers setup model limit next (entries ++ (follow setup session lines).1) := by
  induction lines generalizing session entries with
  | nil =>
      cases hnext
      rwa [Console.follow, List.append_nil]
  | cons line lines ih =>
      rw [List.length_cons] at hroom
      rw [Console.follow] at hnext ⊢
      cases hline : (handleLine setup session line).2.2 with
      | none => rw [hline] at hnext; cases hnext
      | some behind =>
          rw [hline] at hnext
          have hstep := h.step hids (by omega) hline
          have hrest := ih hstep (by rw [List.length_append, List.length_singleton]; omega) hnext
          rwa [List.append_assoc, List.singleton_append] at hrest

end Remembers

/-! ## Arguments -/

/-- What the options of a command line set is not blank. -/
structure Arguments.Said (a : Arguments) : Prop where
  model : ∀ m, a.model = some m → m ≠ []
  system : ∀ t, a.system = some t → t ≠ []

theorem Arguments.Said.setTrimmed {a : Arguments} (h : a.Said) (setter : Setter) (value : Text) :
    (a.setTrimmed setter value).Said := by
  rw [Arguments.setTrimmed]
  split
  case h_1 value' hvalue =>
    obtain ⟨-, hne⟩ := Text.trimmed?_eq_some.mp hvalue
    cases setter with
    | model => exact ⟨fun m hm => Option.some.inj hm ▸ hne, h.system⟩
    | system => exact ⟨h.model, fun t ht => Option.some.inj ht ▸ hne⟩
    | nothing => exact h
  case h_2 => exact h

theorem Arguments.add_said {a : Arguments} (h : a.Said) (words : List Text) : (a.add words).Said := by
  fun_induction Arguments.add a words with
  | case1 => exact h
  | case2 a word rest hswitch ih => exact ih ⟨h.model, h.system⟩
  | case3 => exact h
  | case4 a word hswitch setter value rest hsetter ih => exact ih (h.setTrimmed setter value)
  | case5 a word rest hswitch hnone ih => exact ih ⟨h.model, h.system⟩

theorem Arguments.read_said (words : List Text) : (Arguments.read words).Said := by
  refine add_said ⟨fun m hm => ?_, fun t ht => ?_⟩ words
  · cases hm
  · cases ht

/-! ## A run from its beginning -/

section

variable {s : Surroundings} {c : Config} {opening : List Output} {o : Opened}

/-- What a run that has been opened goes on from. -/
structure OpenedAs (s : Surroundings) (c : Config) (o : Opened) : Prop where
  arguments : o.arguments = .read s.arguments
  system : o.setup.system = o.arguments.system
  ids : o.setup.runtime.ids = s.ids
  model : o.setup.runtime.relay.defaults.modelName = c.options.resolve.modelName
  session : o.session = ⟨environmentThread s.environment, o.arguments.model, .fresh, 0, 0⟩

theorem openedAs (h : openUnder s c = .ok (opening, o)) : OpenedAs s c o := by
  rw [openUnder, Service.openWith] at h
  cases hload : ToolSet.load c.toolsPath (s.toolsFile c.toolsPath)
      ⟨c.toolsEnabled, c.toolsDisabled⟩ with
  | error f => rw [hload] at h; cases h
  | ok chosen =>
      rw [hload] at h
      cases h
      exact ⟨rfl, rfl, rfl, rfl, rfl⟩

theorem environmentThread_trimmed {env : Environment} {id : Text}
    (h : environmentThread env = some id) : id.trimmed? = some id := by
  obtain ⟨value, -, hvalue⟩ := Option.bind_eq_some_iff.mp h
  obtain ⟨rfl, hne⟩ := Text.trimmed?_eq_some.mp hvalue
  exact Text.trimmed?_eq_some.mpr ⟨Text.trim_trim value, hne⟩

/-- The interactive mode begins with an empty journal. -/
theorem remembers_greet (h : OpenedAs s c o) {transport : Nat → Nat → Transport} {limit : Nat}
    (hids : NewIds s.ids (environmentThread s.environment) limit) :
    Remembers { o.setup with transport := transport } o.arguments.model limit
      (greet o.setup.runtime o.session).2 [] := by
  have hsession := h.session
  rw [← h.ids] at hids
  cases henv : environmentThread s.environment with
  | some id =>
      have hother : ∀ i ≤ limit, o.setup.runtime.ids i ≠ id := by
        rintro i hi rfl
        exact hids.other i hi henv
      rw [hsession, henv]
      exact ⟨⟨id, rfl, environmentThread_trimmed henv, rfl, fun i _ => hother i⟩,
        fun i _ _ => rfl, rfl, Nat.zero_le _⟩
  | none =>
      rw [hsession, henv]
      exact ⟨⟨o.setup.runtime.ids 0, rfl, hids.written 0 (Nat.zero_le _), rfl,
        fun i hi hlimit => (hids.apart 0 i hi hlimit).symm⟩, fun i _ _ => rfl, rfl, Nat.le_refl _⟩

/-- What the plan of a prompt sends, by the journal of the lines before it: the exchanges that are
recalled and the prompt, under the system prompt of the arguments, to the model that was named last,
in a line, in the arguments or in the configuration. -/
structure Asks (c : Config) (arguments : Arguments) (entries : List Entry) (prompt : Text)
    (p : Turn.Plan) : Prop where
  messages : p.messages = recalled entries ++ [⟨.user, .text prompt⟩]
  sent : p.request.toJson.get? "messages" = some (Message.listToJson p.messages)
  system : p.request.toJson.get? "system" = arguments.system.map .str
  model : p.model = (chosen entries <|> arguments.model).getD c.options.resolve.modelName

theorem chosen_ne_nil {entries : List Entry} {m : Text} (h : chosen entries = some m) : m ≠ [] := by
  have hmem : m ∈ entries.filterMap Entry.model? := List.mem_of_getLast? h
  obtain ⟨e, -, he⟩ := List.mem_filterMap.mp hmem
  rintro rfl
  cases e with
  | command command =>
      cases command with
      | model argument => cases argument <;> cases he
      | _ => cases he
  | _ => cases he

theorem asks_planOf (h : OpenedAs s c o) {transport : Nat → Nat → Transport} {limit : Nat}
    {session : Session} {entries : List Entry} {id : Text} (t : Text)
    (hremembers : Remembers { o.setup with transport := transport } o.arguments.model limit session
      entries)
    (hmessages : session.memory.threads.messages id = recalled entries) :
    Asks c o.arguments entries t (planOf { o.setup with transport := transport } session id t) := by
  have hsaid : o.arguments.Said := h.arguments ▸ Arguments.read_said s.arguments
  have hnamed : ∀ m, session.model = some m → m ≠ [] := by
    rw [hremembers.model]
    intro m hm
    cases hchosen : chosen entries with
    | none =>
        rw [hchosen] at hm
        exact hsaid.model m hm
    | some m' =>
        rw [hchosen] at hm
        cases hm
        exact chosen_ne_nil hchosen
  constructor
  · rw [planOf, hmessages]
  · exact Request.get?_messages _
  · rw [Request.get?_system]
    show (o.setup.system.map Json.str).filter Json.isSaid = _
    rw [h.system]
    cases hsystem : o.arguments.system with
    | none => rfl
    | some text =>
        cases text with
        | nil => exact absurd rfl (hsaid.system [] hsystem)
        | cons u text => rfl
  · rw [← hremembers.model, ← h.model]
    show Options.modelName ((Turn.clientOptions (request _ session "cli-repl" t)).above
      o.setup.runtime.relay.defaults) = _
    have hmodel : (request { o.setup with transport := transport } session "cli-repl" t).model
        = session.model := nonEmpty?_bind hnamed
    rw [Turn.clientOptions, hmodel, nonEmpty?_bind hnamed]
    cases session.model with
    | none => rfl
    | some m => rfl

/-- Whatever the transport of each turn does, the interactive mode goes on until a line says to leave
and looks at none behind it. Up to there, a prompt is trimmed and sent as its journal tells, and this
request is all that the transport is asked for. Any other line makes no call and comes to the same
whatever the transport is. -/
theorem interact_recalls (hopen : openUnder s c = .ok (opening, o))
    (transport : Nat → Nat → Transport) (before : List Text)
    (hids : NewIds s.ids (environmentThread s.environment) before.length) :
    let setup : Setup := { o.setup with transport := transport }
    let start := (greet setup.runtime o.session).2
    match follow setup start before with
    | (_, none) => (∃ line ∈ before, Line.read line = .command .leave) ∧
        ∀ after, handleLines setup start (before ++ after) = handleLines setup start before
    | (entries, some session) => (∀ line ∈ before, Line.read line ≠ .command .leave) ∧
        (∀ after, handleLines setup start (before ++ after)
          = ((handleLines setup start before).1 ++ (handleLines setup session after).1,
              (handleLines setup start before).2 ++ (handleLines setup session after).2)) ∧
        ∀ line,
          match Line.read line with
          | .prompt t => t = line.trim ∧ ∃ p, Asks c o.arguments entries t p ∧
              handleLine setup session line
                = ((carryOut setup session p).1, (carryOut setup session p).2.1,
                    some (carryOut setup session p).2.2)
          | _ => (handleLine setup session line).2.1 = [] ∧
              ∀ other, handleLine { setup with transport := other } session line
                = handleLine setup session line := by
  intro setup start
  have hopened := openedAs hopen
  have happend := handleLines_append setup start before
  have hleaves := follow_leaves setup start before
  have hstart : Remembers setup o.arguments.model before.length start [] :=
    remembers_greet hopened hids
  rw [← hopened.ids] at hids
  have hbehind {session : Session} (hnext : (follow setup start before).2 = some session) :
      Remembers setup o.arguments.model before.length session (follow setup start before).1 :=
    hstart.follow hids (by rw [List.length_nil]; omega) hnext
  generalize follow setup start before = journal at happend hleaves hbehind ⊢
  obtain ⟨entries, _ | session⟩ := journal
  · exact ⟨hleaves.mp rfl, happend⟩
  · have hremembers : Remembers setup o.arguments.model before.length session entries := hbehind rfl
    refine ⟨fun line hline hleave => ?_, happend, fun line => ?_⟩
    · cases hleaves.mpr ⟨line, hline, hleave⟩
    · split
      case h_1 t hprompt =>
        obtain ⟨htrim, ht⟩ := Line.read_prompt hprompt
        obtain ⟨id, hthread, hid, hmessages, -⟩ := hremembers.thread
        refine ⟨htrim, planOf setup session id t, asks_planOf hopened t hremembers hmessages, ?_⟩
        rw [handleLine, hprompt]
        dsimp only
        rw [send_eq_carryOut hthread hid ht]
      case h_2 hother =>
        simp only [handleLine]
        cases hline : Line.read line with
        | prompt t => exact absurd hline (hother t)
        | blank | command command => exact ⟨rfl, fun _ => rfl⟩

end

/-- A transport that answers every request with one text. -/
def greeting : Transport :=
  let r : Response := ⟨"m", .value "message_stop", "assistant", "claude", [.text "hello"], .missing,
    .missing, ⟨.missing, .missing⟩⟩
  ⟨fun _ _ => Flow.hold none (.one r), fun _ _ => .one r, fun _ _ => .one r⟩

/-- The surroundings of an interactive run with a model and a system prompt. -/
def desk : Surroundings where
  arguments := ["-i", "--model", "m1", "--system", "be brief"]
  environment := []
  root := "/work"
  piped := none
  toolsFile := fun _ => none
  credentials := .ok none
  ids := fun i => "id-" ++ Text.ofNat i
  network := fun _ => .failed (.error "reset")

/-- A configuration that leaves everything to what is built in. -/
def plainConfig : Config where
  debugging := false
  port := .ofNat 3000
  root := "/work"
  project := "p"
  location := "l"
  accessToken := none
  base := none
  options := {}
  toolsPath := "/work/tools.config.yaml"
  toolsEnabled := []
  toolsDisabled := []
  authToken := none

theorem newIds_desk : NewIds desk.ids (environmentThread desk.environment) 4 := by
  have hwritten : ∀ i ≤ 4, (desk.ids i).trimmed? = some (desk.ids i) := by decide +kernel
  have hapart : ∀ j ≤ 4, ∀ i < j, desk.ids i ≠ desk.ids j := by decide +kernel
  exact ⟨hwritten, fun i j hij hj => hapart j hj i hij, fun _ _ => nofun⟩

/-- Lines of a session that is reset once. -/
def deskLines : List Text := ["forget me", "/reset", " and you? ", "/model  m  2"]

/-- The journal of these lines. -/
def deskJournal (o : Opened) : List Entry × Option Session :=
  follow { o.setup with transport := fun _ _ => greeting } (greet o.setup.runtime o.session).2
    deskLines

theorem deskJournal_eq {opening : List Output} {o : Opened}
    (h : openUnder desk plainConfig = .ok (opening, o)) :
    (deskJournal o).2.isSome = true ∧
      recalled (deskJournal o).1
        = [⟨.user, .text "and you?"⟩, ⟨.assistant, .blocks [.text "hello"]⟩] ∧
      chosen (deskJournal o).1 = some (Text.ofString "m 2") := by
  cases h
  decide +kernel

theorem interact_recalls_desk :
    ∃ opening o, openUnder desk plainConfig = .ok (opening, o) ∧
      ∃ p, Asks plainConfig o.arguments (deskJournal o).1 "more" p ∧
        p.messages = [⟨.user, .text "and you?"⟩, ⟨.assistant, .blocks [.text "hello"]⟩,
          ⟨.user, .text "more"⟩] ∧
        p.model = "m 2" := by
  cases hopen : openUnder desk plainConfig with
  | error f => cases hopen
  | ok r =>
      obtain ⟨opening, o⟩ := r
      refine ⟨opening, o, rfl, ?_⟩
      have hlaw := interact_recalls hopen (fun _ _ => greeting) deskLines newIds_desk
      obtain ⟨hstays, hrecalled, hchosen⟩ := deskJournal_eq hopen
      have hjournal : follow { o.setup with transport := fun _ _ => greeting }
        (greet o.setup.runtime o.session).2 deskLines = deskJournal o := rfl
      dsimp only at hlaw
      rw [hjournal] at hlaw
      generalize deskJournal o = journal at hlaw hstays hrecalled hchosen ⊢
      obtain ⟨entries, _ | session⟩ := journal
      · cases hstays
      · have hline : Line.read "more " = .prompt "more" := by decide +kernel
        have hprompt := hlaw.2.2 "more "
        rw [hline] at hprompt
        obtain ⟨-, p, hasks, -⟩ := hprompt
        refine ⟨p, hasks, ?_, ?_⟩
        · rw [hasks.messages, hrecalled]
          rfl
        · rw [hasks.model, hchosen]
          rfl

end ChatRelay.Console
