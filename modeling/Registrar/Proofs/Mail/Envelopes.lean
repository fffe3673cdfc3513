import Registrar.Mail.Drain
/-!
# Producers and consumers

What a producer sends is a run of messages and, if its transaction commits, the word of it. A
consumer does nothing with messages alone (`consume_messages`), so without that word no message
goes out, and with it all of them do (`consume_commit`).

What a mailer is handed is seen by a mailer that records it (`Mailer.recording`).
-/
namespace Registrar.Mail

variable {ω τ μ : Type} (templates : Templates) (base : String)

/-! ## Producers -/

/-- Either every item has a message, and all are sent in order, or some item has none, and the
messages of items before it are sent. -/
theorem sendAll_cases (items : List Item) (sent : List Envelope) :
    (∃ messages : List Message, items.map (Item.message templates base) = messages.map .ok ∧
      sendAll templates base items sent = .done () (sent ++ messages.map .message)) ∨
    (∃ item cause, ∃ messages : List Message, item ∈ items ∧
      item.message templates base = .error cause ∧
      sendAll templates base items sent = .fail cause (sent ++ messages.map .message)) := by
  induction items generalizing sent with
  | nil => exact Or.inl ⟨[], rfl, by simp [sendAll, pure]⟩
  | cons item rest ih =>
    cases hmessage : item.message templates base with
    | error cause =>
      refine Or.inr ⟨item, cause, [], List.mem_cons_self, hmessage, ?_⟩
      simp [sendAll, hmessage, Task.lift, Task.fail, bind, Program.bind]
    | ok message =>
      have hsend : sendAll templates base (item :: rest) sent =
          sendAll templates base rest (sent ++ [.message message]) := by
        simp [sendAll, hmessage, Task.lift, Task.change, bind, pure, Program.bind]
      rcases ih (sent ++ [.message message]) with
        ⟨messages, hall, hdone⟩ | ⟨other, cause, messages, hmem, herror, hfail⟩
      · refine Or.inl ⟨message :: messages, by simp [hmessage, hall], ?_⟩
        rw [hsend, hdone]
        simp
      · refine Or.inr ⟨other, cause, message :: messages, List.mem_cons_of_mem _ hmem, herror, ?_⟩
        rw [hsend, hfail]
        simp

/-- What a producer does once it has sent its messages. -/
def mark (queue : Queue) (count : Nat) (sent : List Envelope) :
    Program (List Envelope) (Nat × Nat) :=
  .ask (.markSeen queue) sent fun marked => .done (count, marked) sent

/-- A producer selects, sends, and marks. -/
theorem fill_eq (queue : Queue) (sent : List Envelope) :
    fill templates base queue sent = .ask (.unseen queue) sent fun items =>
      (sendAll templates base items sent).bind fun _ sent => mark queue items.length sent := rfl

/-- What a producer goes on with once it has selected: it marks, or an item has no message. -/
theorem sendAll_mark_cases (queue : Queue) (items : List Item) :
    let program := (sendAll templates base items []).bind fun _ sent => mark queue items.length sent
    (∃ messages : List Message, items.map (Item.message templates base) = messages.map .ok ∧
      program = mark queue messages.length (messages.map .message)) ∨
    (∃ item cause, ∃ messages : List Message, item ∈ items ∧
      item.message templates base = .error cause ∧
      program = .fail cause (messages.map .message)) := by
  rcases sendAll_cases templates base items [] with
    ⟨messages, hmessages, hsend⟩ | ⟨item, cause, messages, hmem, herror, hsend⟩
  · have hlength := congrArg List.length hmessages
    simp only [List.length_map] at hlength
    refine Or.inl ⟨messages, hmessages, ?_⟩
    rw [hsend, hlength]
    rfl
  · exact Or.inr ⟨item, cause, messages, hmem, herror, by rw [hsend]; rfl⟩

/-! ## Consumers -/

theorem consume_append (mailer : Mailer μ) (messages : List Message) (rest : List Envelope)
    (held : List Message) (m : μ) :
    consume mailer held (messages.map .message ++ rest) m =
      consume mailer (held ++ messages) rest m := by
  induction messages generalizing held with
  | nil => simp
  | cons message others ih =>
    simp only [List.map_cons, List.cons_append, consume, ih, List.append_assoc, List.nil_append]

/-- Without a commit nothing is delivered. -/
theorem consume_messages (mailer : Mailer μ) (messages : List Message) (m : μ) :
    consume mailer [] (messages.map .message) m = (some 0, m) := by
  have := consume_append mailer messages [] [] m
  simpa [consume] using this

/-- With a commit everything is delivered. -/
theorem consume_commit (mailer : Mailer μ) (messages : List Message) (m : μ) :
    consume mailer [] (messages.map .message ++ [.commit]) m = deliverAll mailer 0 messages m := by
  simp [consume_append, consume]

/-! ## What is handed over -/

/-- A message and what became of it. -/
abbrev Handed := Message × Delivery

/-- The messages that were accepted. -/
def accepted (handed : List Handed) : Nat :=
  (handed.filter fun entry => entry.2 = .accepted).length

/-- The mailer that remembers, besides what it remembers anyway, everything that it is handed. -/
def Mailer.recording (mailer : Mailer μ) : Mailer (List Handed × μ) where
  deliver message state :=
    let (delivery, m) := mailer.deliver message state.2
    (delivery, (state.1 ++ [(message, delivery)], m))

/-- A mailer that never breaks down is handed all messages, in order. -/
theorem deliverAll_recording {mailer : Mailer μ}
    (halive : ∀ message m, (mailer.deliver message m).1 ≠ .died) (messages : List Message)
    (count : Nat) (before : List Handed) (m : μ) :
    ∃ handed m', handed.map Prod.fst = messages ∧
      deliverAll mailer.recording count messages (before, m) =
        (some (count + accepted handed), (before ++ handed, m')) := by
  induction messages generalizing count before m with
  | nil => exact ⟨[], m, rfl, by simp [deliverAll, accepted]⟩
  | cons message rest ih =>
    cases hdelivery : mailer.deliver message m with
    | mk delivery m =>
      cases delivery with
      | accepted =>
        obtain ⟨handed, m', hmessages, hall⟩ := ih (count + 1) (before ++ [(message, .accepted)]) m
        refine ⟨(message, .accepted) :: handed, m', by simp [hmessages], ?_⟩
        simp only [deliverAll, Mailer.recording, hdelivery]
        exact hall.trans (by simp [accepted]; omega)
      | refused =>
        obtain ⟨handed, m', hmessages, hall⟩ := ih count (before ++ [(message, .refused)]) m
        refine ⟨(message, .refused) :: handed, m', by simp [hmessages], ?_⟩
        simp only [deliverAll, Mailer.recording, hdelivery]
        exact hall.trans (by simp [accepted])
      | died => exact absurd (congrArg Prod.fst hdelivery) (halive message _)

/-! ## Mailers that do the same -/

section

variable {μ' : Type} {mailer : Mailer μ} {mailer' : Mailer μ'} {f : μ → μ'}

/-- Seen through `f`, what one mailer remembers is what the other one does, and both deliver alike. -/
def Mailer.Mirrors (f : μ → μ') (mailer : Mailer μ) (mailer' : Mailer μ') : Prop :=
  ∀ message m, mailer'.deliver message (f m) =
    ((mailer.deliver message m).1, f (mailer.deliver message m).2)

theorem deliverAll_of_mirrors (h : mailer.Mirrors f mailer') (count : Nat) (messages : List Message)
    (m : μ) :
    deliverAll mailer' count messages (f m) =
      ((deliverAll mailer count messages m).1, f (deliverAll mailer count messages m).2) := by
  induction messages generalizing count m with
  | nil => rfl
  | cons message rest ih =>
    simp only [deliverAll, h message m]
    rcases mailer.deliver message m with ⟨delivery, m⟩
    cases delivery with
    | accepted => exact ih (count + 1) m
    | refused => exact ih count m
    | died => rfl

theorem consume_of_mirrors (h : mailer.Mirrors f mailer') (held : List Message)
    (sent : List Envelope) (m : μ) :
    consume mailer' held sent (f m) =
      ((consume mailer held sent m).1, f (consume mailer held sent m).2) := by
  induction sent generalizing held with
  | nil => rfl
  | cons envelope rest ih =>
    cases envelope with
    | message message => exact ih (held ++ [message])
    | commit => exact deliverAll_of_mirrors h 0 held m

theorem drain_of_mirrors (h : mailer.Mirrors f mailer') (warehouse : Warehouse ω τ) (queue : Queue)
    (w : ω) (m : μ) :
    drain warehouse mailer' templates base queue w (f m) =
      let (result, w, m) := drain warehouse mailer templates base queue w m
      (result, w, f m) := by
  simp only [drain, consume_of_mirrors h]
  rcases warehouse.transact .snapshot (fill templates base queue) [] w with ⟨result, sent, w⟩
  rcases consume mailer [] (envelopes result sent) m with ⟨_ | delivered, m⟩
  · rfl
  · cases result <;> rfl

end

/-- A mailer that records is otherwise the same. -/
theorem recording_mirrors (mailer : Mailer μ) : mailer.recording.Mirrors Prod.snd mailer :=
  fun _ _ => rfl

theorem consume_recording (mailer : Mailer μ) (sent : List Envelope) (held : List Message)
    (before : List Handed) (m : μ) :
    (consume mailer.recording held sent (before, m)).1 = (consume mailer held sent m).1 ∧
      (consume mailer.recording held sent (before, m)).2.2 = (consume mailer held sent m).2 := by
  rw [consume_of_mirrors (recording_mirrors mailer) held sent (before, m)]
  exact ⟨rfl, rfl⟩

/-- **Recording changes nothing**: a drain has the same result with a mailer that records, and
leaves the same behind. -/
theorem drain_recording (warehouse : Warehouse ω τ) (mailer : Mailer μ) (queue : Queue) (w : ω)
    (before : List Handed) (m : μ) :
    let recorded := drain warehouse mailer.recording templates base queue w (before, m)
    (recorded.1, recorded.2.1, recorded.2.2.2) = drain warehouse mailer templates base queue w m := by
  exact (drain_of_mirrors templates base (recording_mirrors mailer) warehouse queue w
    (before, m)).symm

/-- What was recorded before a drain stays in front of what the drain hands over. -/
theorem drain_recorded (warehouse : Warehouse ω τ) (mailer : Mailer μ) (queue : Queue) (w : ω)
    (before : List Handed) (m : μ) :
    drain warehouse mailer.recording templates base queue w (before, m) =
      let (result, w, handed, m) := drain warehouse mailer.recording templates base queue w ([], m)
      (result, w, before ++ handed, m) := by
  have hmirrors : mailer.recording.Mirrors (fun state => (before ++ state.1, state.2))
      mailer.recording := by
    intro message state
    simp [Mailer.recording]
  have hdrain := drain_of_mirrors templates base hmirrors warehouse queue w ([], m)
  simpa using hdrain

/-- What a drain leaves behind: the state after its transaction, and the mailer after all that its
consumer was sent. -/
theorem drain_snd (warehouse : Warehouse ω τ) (mailer : Mailer μ) (queue : Queue) (w : ω) (m : μ) :
    let ended := warehouse.transact .snapshot (fill templates base queue) [] w
    (drain warehouse mailer templates base queue w m).2 =
      (ended.2.2, (consume mailer [] (envelopes ended.1 ended.2.1) m).2) := by
  simp only [drain]
  generalize warehouse.transact .snapshot (fill templates base queue) [] w = ended
  obtain ⟨result, sent, w⟩ := ended
  rcases consume mailer [] (envelopes result sent) m with ⟨count, m⟩
  cases count with
  | none => rfl
  | some count => cases result <;> rfl

end Registrar.Mail
