import ChatRelay.Console.Session
import ChatRelay.Proofs.Turn.Exchange

/-!
# The turns of a session

A prompt of a session that has a thread is always planned: its request repeats what the thread holds
and adds the prompt (`plan_request`). What follows is a matter of the transport alone (`carryOut`),
which is asked for this one request (`send_eq_carryOut`). No signal stops these turns, so a turn
completes exactly if the answer has a final response (`course_never`), and what it leaves behind
follows from that response (`send_session`).
-/

namespace ChatRelay

/-! ## Turns that nobody stops -/

namespace Turn

variable {relay : Relay} {transport : Transport} {threads : Threads} {threadId : Text}
  {input : ChatRequest} {r : Response}

theorem courseFrom_never {debugging : Bool} {failure : Option Failure} {m : Moment}
    {acts : List (Act Effect (Held Response))}
    (h : ((acts.filterMap Act.item?).map Held.item).find? Response.isFinal = some r) :
    (courseFrom ⟨debugging, threadId, .never⟩ failure m acts).ending = .finished r := by
  induction acts generalizing m with
  | nil => cases h
  | cons act acts ih =>
      cases act with
      | effect e => cases e <;> exact ih h
      | yield r' =>
          have h : (r'.item :: (acts.filterMap Act.item?).map Held.item).find? Response.isFinal
              = some r := h
          rw [List.find?_cons] at h
          rw [courseFrom]
          split
          case isTrue hfired => cases hfired
          case isFalse =>
            split
            case isTrue hfinal =>
              rw [hfinal] at h
              cases h
              rfl
            case isFalse hfinal =>
              rw [Bool.eq_false_iff.mpr hfinal] at h
              exact ih h

/-- A turn that nobody stops completes exactly if there is a final response. -/
theorem course_never :
    (course relay transport threads threadId input .never).ending = .finished r ↔
      (streamed relay transport threads threadId input).find? Response.isFinal = some r := by
  constructor
  · exact fun h => (course_finished h).2.1
  · intro h
    unfold streamed at h
    unfold course
    cases hplan : plan relay.defaults threads threadId input true with
    | error f => rw [hplan] at h; cases h
    | ok p =>
        rw [hplan] at h
        dsimp only at h
        rw [Transport.stream, Flow.items_bare] at h
        exact courseFrom_never h

theorem stored_never {message : Message} (h : input.userMessage = .ok message) :
    TurnEffect.stored (run relay transport threads threadId input .never).effects threads
      = recorded threads threadId message
          ((streamed relay transport threads threadId input).find? Response.isFinal) := by
  rw [TurnEffect.stored_eq_writes, run_writes]
  cases hreply : (streamed relay transport threads threadId input).find? Response.isFinal with
  | some r =>
      rw [course_never.mpr hreply]
      simp only [record, h, recorded]
      split <;> rfl
  | none =>
      cases hending : (course relay transport threads threadId input .never).ending with
      | finished r =>
          rw [course_never.mp hending] at hreply
          cases hreply
      | stopped | unfinished | failed => rfl

end Turn

/-! ## What a session asks -/

namespace Console

variable {setup : Setup} {session : Session} {id t : Text}

/-- The transport of the next turn of a session. -/
def Setup.next (setup : Setup) (session : Session) : Transport :=
  setup.transport session.turns session.called

/-- The plan of a prompt on a thread. -/
def planOf (setup : Setup) (session : Session) (id t : Text) : Turn.Plan :=
  let messages := session.memory.threads.messages id ++ [⟨.user, .text t⟩]
  let options := (Turn.clientOptions (request setup session "cli-repl" t)).above
    setup.runtime.relay.defaults
  ⟨id, messages, options.modelName, .build (some (Message.listToJson messages)) options
    (setup.system.map .str) (some (.bool true))⟩

theorem userMessage_request (ht : t.trimmed? = some t) :
    (request setup session "cli-repl" t).userMessage = .ok ⟨.user, .text t⟩ := by
  simp only [ChatRequest.userMessage, request, Option.bind_some, ht]
  rfl

theorem plan_request (ht : t.trimmed? = some t) :
    Turn.plan setup.runtime.relay.defaults session.memory.threads id
        (request setup session "cli-repl" t) true
      = .ok (planOf setup session id t) := by
  rw [Turn.plan, userMessage_request ht]
  rfl

theorem threadFor_request (hthread : session.thread = some id) (hid : id.trimmed? = some id) :
    setup.runtime.threadFor session.memory (request setup session "cli-repl" t)
      = (id, session.memory) := by
  have hfilled : nonEmpty? id = some id := nonEmpty?_of_ne_nil (Text.trimmed?_eq_some.mp hid).2
  have hnamed : (request setup session "cli-repl" t).thread? = some id := by
    simp only [ChatRequest.thread?, request, hthread, Option.bind_some, hfilled, hid]
  rw [Runtime.threadFor, hnamed]

/-! ## What comes of it -/

/-- A turn with a plan: the transport is asked for the answer to the request, and what it gives is
shown to the end. -/
def carryOut (setup : Setup) (session : Session) (p : Turn.Plan) :
    List Output × List Call × Session :=
  let view : View := ⟨setup.runtime.relay.debugging, p.threadId, .never⟩
  let answer := (setup.next session).responses p.model p.request.toJson
  let flow := (Turn.heldEvents view p.commit (Turn.close view) (Moment.start.receive 1) answer).after
    [.yield (.session p.threadId)]
  let calls := TurnEffect.calls flow.effects
  (flow.acts.flatMap (shown setup.runtime.relay.debugging) ++ [.stdout "\n"], calls,
    { session with
      thread := some p.threadId
      memory := session.memory.after flow.effects
      turns := session.turns + 1
      called := session.called + calls.length })

/-- A turn announces its own thread and no other one. -/
theorem announced_run (relay : Relay) (transport : Transport) (threads : Threads) (id : Text)
    (input : ChatRequest) (signal : Signal) :
    announced (Turn.run relay transport threads id input signal).items = some id := by
  obtain ⟨rest, hitems, hrest⟩ := Turn.run_session relay transport threads id input signal
  have hnone : rest.filterMap announced? = [] := by
    rw [List.filterMap_eq_nil_iff]
    intro e he
    cases e with
    | session other => exact absurd rfl (hrest _ he)
    | _ => rfl
  have hfirst : announced? (.session id) = some id := rfl
  rw [hitems, announced, List.filterMap_cons_some hfirst, hnone]
  rfl

theorem run_request (hthread : session.thread = some id) (hid : id.trimmed? = some id) :
    setup.runtime.run (setup.next session) session.memory (request setup session "cli-repl" t)
        .never none
      = (Turn.run setup.runtime.relay (setup.next session) session.memory.threads id
          (request setup session "cli-repl" t) .never,
        session.memory.after (Turn.run setup.runtime.relay (setup.next session)
          session.memory.threads id (request setup session "cli-repl" t) .never).effects) := by
  rw [Runtime.run, threadFor_request hthread hid]
  rfl

/-- A prompt on a thread is its plan carried out. -/
theorem send_eq_carryOut (hthread : session.thread = some id) (hid : id.trimmed? = some id)
    (ht : t.trimmed? = some t) :
    send setup session "cli-repl" t = carryOut setup session (planOf setup session id t) := by
  have hflow : Turn.run setup.runtime.relay (setup.next session) session.memory.threads id
        (request setup session "cli-repl" t) .never
      = (Turn.heldEvents ⟨setup.runtime.relay.debugging, id, .never⟩
          (planOf setup session id t).commit
          (Turn.close ⟨setup.runtime.relay.debugging, id, .never⟩) (Moment.start.receive 1)
          ((setup.next session).responses (planOf setup session id t).model
            (planOf setup session id t).request.toJson)).after [.yield (.session id)] := by
    rw [Turn.run, Turn.respond, plan_request ht]
  have hrun : setup.runtime.run (setup.transport session.turns session.called) session.memory
      (request setup session "cli-repl" t) .never none = _ := run_request hthread hid
  rw [send, hrun]
  dsimp only
  rw [announced_run, hflow]
  rfl

/-- The response that completes the turn of a prompt, if the transport gives one. -/
def reply? (setup : Setup) (session : Session) (t : Text) : Option Response :=
  let input := request setup session "cli-repl" t
  let (id, memory) := setup.runtime.threadFor session.memory input
  (Turn.streamed setup.runtime.relay (setup.next session) memory.threads id input).find?
    Response.isFinal

theorem reply?_eq (hthread : session.thread = some id) (hid : id.trimmed? = some id) :
    reply? setup session t
      = (Turn.streamed setup.runtime.relay (setup.next session) session.memory.threads id
          (request setup session "cli-repl" t)).find? Response.isFinal := by
  rw [reply?, threadFor_request hthread hid]

/-- It is the response with which the client is told that the model has finished. -/
theorem replied_iff_reply? (hthread : session.thread = some id) (hid : id.trimmed? = some id)
    {r : Response} :
    Turn.Replied
        (setup.runtime.run (setup.next session) session.memory (request setup session "cli-repl" t)
          .never none).1.items
        (Turn.streamed setup.runtime.relay (setup.next session) session.memory.threads id
          (request setup session "cli-repl" t)) r
      ↔ reply? setup session t = some r := by
  rw [run_request hthread hid, reply?_eq hthread hid]
  exact Turn.replied_iff.trans Turn.course_never

/-- A session stays on its thread, to which the prompt and its reply have come. -/
theorem send_session (hthread : session.thread = some id) (hid : id.trimmed? = some id)
    (ht : t.trimmed? = some t) :
    (send setup session "cli-repl" t).2.2 =
      { session with
        thread := some id
        memory := { session.memory with
          threads := Turn.recorded session.memory.threads id ⟨.user, .text t⟩
            (reply? setup session t) }
        turns := session.turns + 1
        called := session.called + (send setup session "cli-repl" t).2.1.length } := by
  have hrun : setup.runtime.run (setup.transport session.turns session.called) session.memory
      (request setup session "cli-repl" t) .never none = _ := run_request hthread hid
  rw [send, hrun]
  dsimp only
  rw [announced_run, Memory.after, Turn.stored_never (userMessage_request ht),
    reply?_eq hthread hid]
  rfl

end Console

end ChatRelay
