import EventGateway.Subscription.Loops

/-! What becomes of the messages that the consumer fetches, over all the loops that it runs one after the other. -/

namespace EventGateway.Subscription
open Lib Lib.Calls

namespace Station

def unsettled : Station → Option Message
  | .decoding fetch => some fetch.message
  | .consulting envelope | .filtering envelope | .noting envelope | .offering envelope | .sending _ envelope =>
      some envelope.message
  | _ => none

def uncommitted : Station → Option Message
  | .committing message => some message
  | place => place.unsettled

end Station

def Record.handedMessages (record : Record) : List (Nat × Message) := record.handed.map (Prod.map id Envelope.message)

def Record.Settled (record : Record) (entry : Nat × Message) : Prop :=
  entry ∈ record.handedMessages ∨ entry ∈ record.skipped

@[simp] theorem Record.handedMessages_hand (record : Record) (call : Nat) (envelope : Envelope) :
    (record.hand call envelope).handedMessages = record.handedMessages ++ [(call, envelope.message)] := by
  simp only [handedMessages, hand, List.map_append, List.map_cons, List.map_nil, Prod.map_apply, id]

inductive Course (consumer after : KafkaConsumer) (call : Nat) (place next : Station) : Prop where
  | stay (record : after.record = consumer.record) (unsettled : next.unsettled = place.unsettled)
      (uncommitted : next.uncommitted = none ∨ next.uncommitted = place.uncommitted)
      (outside : ∀ message, next ≠ .committing message)
  | fetch (message : Message) (record : after.record = consumer.record.fetch call message)
      (owns : place.owns = true) (empty : place.unsettled = none) (holds : next.unsettled = some message)
  | skip (message : Message) (record : after.record = consumer.record.skip call message)
      (holds : place.unsettled = some message) (goes : next = .committing message)
  | hand (envelope : Envelope) (record : after.record = consumer.record.hand call envelope)
      (holds : place.unsettled = some envelope.message) (goes : next = .committing envelope.message)
  | abandon (message : Message) (record : after.record = consumer.record.abandon call message)
      (holds : place.unsettled = some message) (goes : next = .polling)
      (done : ∃ ctx, place.captured = some ctx ∧ consumer.Done ctx)
  | commit (message : Message) (record : after.record = consumer.record.commit call message)
      (holds : place = .committing message) (goes : next = .polling)

theorem Work.course {consumer after : KafkaConsumer} {call : Nat} {place next : Station}
    (worked : Work consumer call place after next) : Course consumer after call place next := by
  cases worked with
  | fetch ctx fetch => exact .fetch fetch.message rfl rfl rfl rfl
  | undecoded fetch => exact .skip fetch.message rfl rfl rfl
  | reject envelope => exact .skip envelope.message rfl rfl rfl
  | hand ctx envelope => exact .hand envelope rfl rfl rfl
  | sendDone ctx envelope done => exact .abandon envelope.message rfl rfl rfl ⟨ctx, rfl, done⟩
  | commit message => exact .commit message rfl rfl rfl
  | panics place fault faulty =>
    refine .stay rfl rfl (.inr rfl) ?_
    rintro message rfl
    cases faulty
  | decode | consult | unfiltered | accept | note | offer => exact .stay rfl rfl (.inr rfl) nofun
  | _ => exact .stay rfl rfl (.inl rfl) nofun

namespace KafkaConsumer
variable {consumer after : KafkaConsumer} {call other : Nat} {place next : Station} {errors : Bool} {message : Message}

def Holds (consumer : KafkaConsumer) (call : Nat) (message : Message) : Prop :=
  ∃ place, consumer.At call place ∧ place.unsettled = some message

theorem owns_of_uncommitted (holds : place.uncommitted = some message) : place.owns = true := by
  cases place with
  | decoding | consulting | filtering | noting | offering | sending | committing => rfl
  | _ => cases holds

theorem uncommitted_of_unsettled (holds : place.unsettled = some message) : place.uncommitted = some message := by
  cases place with
  | committing => cases holds
  | _ => exact holds

section Queues
variable {pend : Station → Option Message} {settled : Record → List (Nat × Message)}

/-- What is settled is settled in the order of fetching, each fetch at most once, and what is pending comes after it. -/
structure Queue (pend : Station → Option Message) (settled : Record → List (Nat × Message))
    (consumer : KafkaConsumer) : Prop where
  sorted : (settled consumer.record).Sublist consumer.record.fetched
  pending : ∀ call place message, consumer.At call place → pend place = some message →
    (settled consumer.record ++ [(call, message)]).Sublist consumer.record.fetched

/-- An operation keeps what is pending or drops it, makes a fetched message pending, or settles the pending one. -/
inductive Pass (pend : Station → Option Message) (settled : Record → List (Nat × Message))
    (consumer after : KafkaConsumer) (call : Nat) (place next : Station) : Prop where
  | keeps (fetched : after.record.fetched = consumer.record.fetched)
      (same : settled after.record = settled consumer.record) (kept : pend next = none ∨ pend next = pend place)
  | fetches (message : Message) (fetched : after.record.fetched = consumer.record.fetched ++ [(call, message)])
      (same : settled after.record = settled consumer.record) (holds : pend next = some message)
  | settles (message : Message) (fetched : after.record.fetched = consumer.record.fetched)
      (grows : settled after.record = settled consumer.record ++ [(call, message)]) (holds : pend place = some message)
      (empty : pend next = none)

theorem Queue.work (queue : Queue pend settled consumer) (sole : Sole consumer)
    (owned : ∀ place message, pend place = some message → place.owns = true)
    (found : consumer.goroutines[call]? = some (.subscribe errors place)) (worked : Work consumer call place after next)
    (pass : Pass pend settled consumer after call place next) :
    Queue pend settled (after.put call (.subscribe errors next)) := by
  have here : consumer.At call place := ⟨errors, found⟩
  cases pass with
  | keeps fetched same kept =>
    refine ⟨?_, ?_⟩
    · show (settled after.record).Sublist after.record.fetched
      rw [fetched, same]
      exact queue.sorted
    · intro other there message moved holds
      show (settled after.record ++ _).Sublist after.record.fetched
      rw [fetched, same]
      rcases at_work found worked moved with ⟨rfl, rfl⟩ | ⟨-, before⟩
      · rcases kept with none | kept
        · cases none.symm.trans holds
        · exact queue.pending _ place message here (kept ▸ holds)
      · exact queue.pending other there message before holds
  | fetches message fetched same own =>
    refine ⟨?_, ?_⟩
    · show (settled after.record).Sublist after.record.fetched
      rw [fetched, same]
      exact queue.sorted.trans (List.sublist_append_left _ _)
    · intro other there message' moved holds
      show (settled after.record ++ _).Sublist after.record.fetched
      rw [fetched, same]
      rcases at_work found worked moved with ⟨rfl, rfl⟩ | ⟨-, before⟩
      · cases own.symm.trans holds
        exact queue.sorted.append (List.Sublist.refl _)
      · exact (queue.pending other there message' before holds).trans (List.sublist_append_left _ _)
  | settles message fetched grows own empty =>
    refine ⟨?_, ?_⟩
    · show (settled after.record).Sublist after.record.fetched
      rw [fetched, grows]
      exact queue.pending call place message here own
    · intro other there message' moved holds
      rcases at_work found worked moved with ⟨rfl, rfl⟩ | ⟨apart, before⟩
      · cases empty.symm.trans holds
      · exact absurd (sole.unique before here (owned _ _ holds) (owned _ _ own)) apart

theorem Queue.beside (queue : Queue pend settled consumer) (idle : pend .locking = none)
    (beside : Beside consumer after) : Queue pend settled after := by
  refine ⟨?_, ?_⟩
  · rw [beside.record]
    exact queue.sorted
  · intro call place message there holds
    rw [beside.record]
    rcases beside.before call place there with rfl | before
    · cases idle.symm.trans holds
    · exact queue.pending call place message before holds

theorem Queue.of_reachable (empty : settled KafkaConsumer.new.record = []) (idle : pend .locking = none)
    (owned : ∀ place message, pend place = some message → place.owns = true)
    (passes : ∀ {consumer after : KafkaConsumer} {call : Nat} {place next : Station},
      Work consumer call place after next → Pass pend settled consumer after call place next)
    (reached : consumerMachine.Reachable consumer) : Queue pend settled consumer := by
  refine holds_of_turns (Queue pend settled) ?_ ?_ ?_ reached
  · exact ⟨empty ▸ List.nil_sublist _, fun _ _ _ here => absurd here not_at_new⟩
  · intro _ _ _ _ _ _ sole queue found worked
    exact queue.work sole owned found worked (passes worked)
  · intro _ _ queue beside
    exact queue.beside idle beside

end Queues

theorem pass_handed (worked : Work consumer call place after next) :
    Pass Station.unsettled Record.handedMessages consumer after call place next := by
  cases worked.course with
  | stay record unsettled => exact .keeps (by rw [record]) (by rw [record]) (.inr unsettled)
  | fetch message record _ _ holds => exact .fetches message (by rw [record]; rfl) (by rw [record]; rfl) holds
  | hand envelope record holds goes =>
    exact .settles envelope.message (by rw [record]; rfl) (by rw [record, Record.handedMessages_hand]) holds (goes ▸ rfl)
  | skip message record _ goes | abandon message record _ goes | commit message record _ goes =>
    exact .keeps (by rw [record]; rfl) (by rw [record]; rfl) (.inl (goes ▸ rfl))

theorem pass_committed (worked : Work consumer call place after next) :
    Pass Station.uncommitted Record.committed consumer after call place next := by
  cases worked.course with
  | stay record _ uncommitted => exact .keeps (by rw [record]) (by rw [record]) uncommitted
  | fetch message record _ _ holds =>
    exact .fetches message (by rw [record]; rfl) (by rw [record]; rfl) (uncommitted_of_unsettled holds)
  | hand envelope record holds goes =>
    exact .keeps (by rw [record]; rfl) (by rw [record]; rfl) (.inr (goes ▸ (uncommitted_of_unsettled holds).symm))
  | skip message record holds goes =>
    exact .keeps (by rw [record]; rfl) (by rw [record]; rfl) (.inr (goes ▸ (uncommitted_of_unsettled holds).symm))
  | abandon message record _ goes => exact .keeps (by rw [record]; rfl) (by rw [record]; rfl) (.inl (goes ▸ rfl))
  | commit message record holds goes =>
    exact .settles message (by rw [record]; rfl) (by rw [record]; rfl) (holds ▸ rfl) (goes ▸ rfl)

section Accounts

theorem at_unique {place' : Station} (here : consumer.At call place) (there : consumer.At call place') :
    place = place' := by
  obtain ⟨errors, found⟩ := here
  obtain ⟨errors', found'⟩ := there
  cases found.symm.trans found'
  rfl

theorem holds_work (found : consumer.goroutines[call]? = some (.subscribe errors place))
    (worked : Work consumer call place after next) : (after.put call (.subscribe errors next)).Holds other message ↔
      other = call ∧ next.unsettled = some message ∨ other ≠ call ∧ consumer.Holds other message := by
  unfold Holds
  simp only [at_work_iff found worked]
  constructor
  · rintro ⟨there, ⟨here, rfl⟩ | ⟨apart, before⟩, holds⟩
    · exact .inl ⟨here, holds⟩
    · exact .inr ⟨apart, there, before, holds⟩
  · rintro (⟨here, holds⟩ | ⟨apart, there, before, holds⟩)
    · exact ⟨next, .inl ⟨here, rfl⟩, holds⟩
    · exact ⟨there, .inr ⟨apart, before⟩, holds⟩

def Apportioned (consumer : KafkaConsumer) (held : Option (Nat × Message)) : Prop :=
  (∀ call message, consumer.Holds call message ↔ held = some (call, message)) ∧
    consumer.record.fetched.Perm (consumer.record.handedMessages ++ consumer.record.skipped ++
      consumer.record.abandoned ++ held.toList)

theorem Apportioned.settle {held : Option (Nat × Message)} (apportioned : Apportioned consumer held)
    (found : consumer.goroutines[call]? = some (.subscribe errors place)) (worked : Work consumer call place after next)
    (holds : place.unsettled = some message) (empty : next.unsettled = none)
    (fetched : after.record.fetched = consumer.record.fetched)
    (settled : (after.record.handedMessages ++ after.record.skipped ++ after.record.abandoned).Perm
      (consumer.record.handedMessages ++ consumer.record.skipped ++ consumer.record.abandoned ++ [(call, message)])) :
    Apportioned (after.put call (.subscribe errors next)) none := by
  obtain ⟨holders, perm⟩ := apportioned
  have mine : held = some (call, message) := (holders call message).mp ⟨place, ⟨errors, found⟩, holds⟩
  rw [mine] at perm
  refine ⟨?_, ?_⟩
  · intro other message'
    rw [holds_work found worked, empty, holders, mine]
    constructor
    · rintro (⟨-, impossible⟩ | ⟨apart, same⟩)
      · cases impossible
      · cases same
        exact absurd rfl apart
    · intro impossible
      cases impossible
  · show after.record.fetched.Perm (after.record.handedMessages ++ after.record.skipped ++ after.record.abandoned ++ [])
    rw [fetched, List.append_nil]
    exact perm.trans settled.symm

theorem Apportioned.keep {held : Option (Nat × Message)} (apportioned : Apportioned consumer held)
    (found : consumer.goroutines[call]? = some (.subscribe errors place)) (worked : Work consumer call place after next)
    (kept : next.unsettled = place.unsettled) (fetched : after.record.fetched = consumer.record.fetched)
    (handed : after.record.handedMessages = consumer.record.handedMessages)
    (skipped : after.record.skipped = consumer.record.skipped)
    (abandoned : after.record.abandoned = consumer.record.abandoned) :
    Apportioned (after.put call (.subscribe errors next)) held := by
  have here : consumer.At call place := ⟨errors, found⟩
  refine ⟨?_, ?_⟩
  · intro other message
    rw [holds_work found worked, ← apportioned.1 other message, kept]
    constructor
    · rintro (⟨rfl, holds⟩ | ⟨-, before⟩)
      · exact ⟨place, here, holds⟩
      · exact before
    · rintro ⟨there, before, holds⟩
      by_cases same : other = call
      · subst same
        rw [at_unique here before]
        exact .inl ⟨rfl, holds⟩
      · exact .inr ⟨same, there, before, holds⟩
  · show after.record.fetched.Perm (after.record.handedMessages ++ after.record.skipped ++ after.record.abandoned ++ _)
    rw [fetched, handed, skipped, abandoned]
    exact apportioned.2

theorem Apportioned.work {held : Option (Nat × Message)} (apportioned : Apportioned consumer held) (sole : Sole consumer)
    (found : consumer.goroutines[call]? = some (.subscribe errors place))
    (worked : Work consumer call place after next) :
    ∃ held', Apportioned (after.put call (.subscribe errors next)) held' := by
  have here : consumer.At call place := ⟨errors, found⟩
  obtain ⟨holders, perm⟩ := apportioned
  cases worked.course with
  | stay record unsettled =>
    exact ⟨held, Apportioned.keep ⟨holders, perm⟩ found worked unsettled (by rw [record]) (by rw [record]) (by rw [record])
      (by rw [record])⟩
  | commit message record holds goes =>
    exact ⟨held, Apportioned.keep ⟨holders, perm⟩ found worked (by rw [holds, goes]; rfl) (by rw [record]; rfl)
      (by rw [record]; rfl) (by rw [record]; rfl) (by rw [record]; rfl)⟩
  | fetch message record owns empty holds =>
    have idle : held = none := by
      cases held with
      | none => rfl
      | some entry =>
        obtain ⟨there, before, holds'⟩ := (holders entry.1 entry.2).mpr rfl
        have same := sole.unique before here (owns_of_uncommitted (uncommitted_of_unsettled holds')) owns
        rw [same] at before
        rw [at_unique here before, holds'] at empty
        cases empty
    refine ⟨some (call, message), ?_, ?_⟩
    · intro other message'
      rw [holds_work found worked, holds, holders, idle]
      constructor
      · rintro (⟨rfl, same⟩ | ⟨-, impossible⟩)
        · cases same
          rfl
        · cases impossible
      · intro same
        cases same
        exact .inl ⟨rfl, rfl⟩
    · show after.record.fetched.Perm (after.record.handedMessages ++ after.record.skipped ++ after.record.abandoned ++ _)
      rw [idle, Option.toList_none, List.append_nil] at perm
      rw [record]
      exact perm.append_right [(call, message)]
  | skip message record holds goes =>
    refine ⟨none, Apportioned.settle ⟨holders, perm⟩ found worked holds (goes ▸ rfl) (by rw [record]; rfl) ?_⟩
    rw [record, List.perm_iff_count]
    intro entry
    simp only [Record.skip, Record.handedMessages, List.count_append]
    omega
  | hand envelope record holds goes =>
    refine ⟨none, Apportioned.settle ⟨holders, perm⟩ found worked holds (goes ▸ rfl) (by rw [record]; rfl) ?_⟩
    rw [record, List.perm_iff_count, Record.handedMessages_hand]
    intro entry
    simp only [Record.hand, List.count_append]
    omega
  | abandon message record holds goes =>
    refine ⟨none, Apportioned.settle ⟨holders, perm⟩ found worked holds (goes ▸ rfl) (by rw [record]; rfl) ?_⟩
    rw [record, List.perm_iff_count]
    intro entry
    simp only [Record.abandon, Record.handedMessages, List.count_append]
    omega

theorem Apportioned.beside {held : Option (Nat × Message)} (apportioned : Apportioned consumer held)
    (beside : Beside consumer after) : Apportioned after held := by
  refine ⟨?_, ?_⟩
  · intro call message
    rw [← apportioned.1 call message]
    constructor
    · rintro ⟨place, there, holds⟩
      rcases beside.before call place there with rfl | before
      · cases holds
      · exact ⟨place, before, holds⟩
    · rintro ⟨place, before, holds⟩
      exact ⟨place, beside.stays call place before, holds⟩
  · rw [beside.record]
    exact apportioned.2

theorem apportioned_of_reachable (reached : consumerMachine.Reachable consumer) : ∃ held, Apportioned consumer held := by
  refine holds_of_turns (fun consumer => ∃ held, Apportioned consumer held) ?_ ?_ ?_ reached
  · refine ⟨none, ?_, List.Perm.refl _⟩
    intro call message
    constructor
    · rintro ⟨place, here, -⟩
      exact absurd here not_at_new
    · intro impossible
      cases impossible
  · rintro _ _ _ _ _ _ sole ⟨held, apportioned⟩ found worked
    exact apportioned.work sole found worked
  · rintro _ _ ⟨held, apportioned⟩ beside
    exact ⟨held, apportioned.beside beside⟩

end Accounts

section Justification

theorem settled_mono (worked : Work consumer call place after next) {entry : Nat × Message}
    (settled : consumer.record.Settled entry) : after.record.Settled entry := by
  unfold Record.Settled at settled ⊢
  cases worked.course with
  | stay record =>
    rw [record]
    exact settled
  | skip message record =>
    rw [record]
    exact settled.imp_right (List.mem_append_left _)
  | hand envelope record =>
    rw [record, Record.handedMessages_hand]
    exact settled.imp_left (List.mem_append_left _)
  | fetch message record | abandon message record | commit message record =>
    rw [record]
    exact settled

/-- What is committed was handed over or skipped before, and what was given up was given up for the end of its context. -/
structure Justified (consumer : KafkaConsumer) : Prop where
  settled : ∀ call message, consumer.At call (.committing message) → consumer.record.Settled (call, message)
  committed : ∀ entry ∈ consumer.record.committed, consumer.record.Settled entry
  abandoned : ∀ entry ∈ consumer.record.abandoned, consumer.Done entry.1

namespace Justified

theorem work (justified : Justified consumer) (sole : Sole consumer)
    (found : consumer.goroutines[call]? = some (.subscribe errors place))
    (worked : Work consumer call place after next) : Justified (after.put call (.subscribe errors next)) where
  settled := by
    intro other message moved
    rcases at_work found worked moved with ⟨rfl, rfl⟩ | ⟨-, before⟩
    · show after.record.Settled _
      cases worked.course with
      | stay _ _ _ outside => exact absurd rfl (outside message)
      | fetch _ _ _ _ holds => cases holds
      | skip _ record _ goes =>
        cases goes
        rw [record]
        exact .inr (List.mem_append_right _ List.mem_cons_self)
      | hand _ record _ goes =>
        cases goes
        rw [record]
        refine .inl ?_
        rw [Record.handedMessages_hand]
        exact List.mem_append_right _ List.mem_cons_self
      | abandon _ _ _ goes => cases goes
      | commit _ _ _ goes => cases goes
    · exact settled_mono worked (justified.settled other message before)
  committed := by
    intro entry member
    have member : entry ∈ after.record.committed := member
    cases worked.course with
    | commit message record holds =>
      rw [record] at member
      rcases List.mem_append.mp member with before | own
      · exact settled_mono worked (justified.committed entry before)
      · rw [List.mem_singleton.mp own]
        subst holds
        exact settled_mono worked (justified.settled call message ⟨errors, found⟩)
    | stay record | fetch _ record | skip _ record | hand _ record | abandon _ record =>
      rw [record] at member
      exact settled_mono worked (justified.committed entry member)
  abandoned := by
    intro entry member
    have member : entry ∈ after.record.abandoned := member
    apply (worked.done_iff entry.1).mpr
    cases worked.course with
    | abandon message record _ _ ended =>
      rw [record] at member
      rcases List.mem_append.mp member with before | own
      · exact justified.abandoned entry before
      · obtain ⟨ctx, captured, done⟩ := ended
        rw [List.mem_singleton.mp own]
        rw [sole.captured call place ctx ⟨errors, found⟩ captured] at done
        exact done
    | stay record | fetch _ record | skip _ record | hand _ record | commit _ record =>
      rw [record] at member
      exact justified.abandoned entry member

theorem beside (justified : Justified consumer) (beside : Beside consumer after) : Justified after where
  settled := by
    intro call message there
    rw [beside.record]
    rcases beside.before call _ there with impossible | before
    · cases impossible
    · exact justified.settled call message before
  committed := by
    rw [beside.record]
    exact justified.committed
  abandoned := by
    rw [beside.record]
    exact fun entry member => beside.done entry.1 (justified.abandoned entry member)

theorem of_reachable (reached : consumerMachine.Reachable consumer) : Justified consumer := by
  refine holds_of_turns Justified ?_ ?_ ?_ reached
  · exact ⟨fun _ _ here => absurd here not_at_new, nofun, nofun⟩
  · intro _ _ _ _ _ _ sole justified found worked
    exact justified.work sole found worked
  · intro _ _ justified beside
    exact justified.beside beside

end Justified
end Justification
end KafkaConsumer

/-- Over all the loops that the consumer ever runs, in every interleaving: a fetched message is exactly one of handed
over to the channel of its own call, skipped, given up, which takes an ended context, or held by the one loop at work;
hand-overs and commits keep the order of fetching, each fetch at most once; and nothing is committed that was not
handed over or skipped. -/
theorem messages_accounted {consumer : KafkaConsumer} (reached : consumerMachine.Reachable consumer) :
    (∃ held : Option (Nat × Message),
      (∀ call message, consumer.Holds call message ↔ held = some (call, message)) ∧
        consumer.record.fetched.Perm (consumer.record.handedMessages ++ consumer.record.skipped ++
          consumer.record.abandoned ++ held.toList)) ∧
      (∀ entry ∈ consumer.record.abandoned, consumer.Done entry.1) ∧
      consumer.record.handedMessages.Sublist consumer.record.fetched ∧
      consumer.record.committed.Sublist consumer.record.fetched ∧
      ∀ entry ∈ consumer.record.committed, consumer.record.Settled entry := by
  have justified := KafkaConsumer.Justified.of_reachable reached
  have unsettled (place : Station) (message : Message) (holds : place.unsettled = some message) : place.owns = true :=
    KafkaConsumer.owns_of_uncommitted (KafkaConsumer.uncommitted_of_unsettled holds)
  have handed := KafkaConsumer.Queue.of_reachable rfl rfl unsettled KafkaConsumer.pass_handed reached
  have committed := KafkaConsumer.Queue.of_reachable rfl rfl
    (fun _ _ => KafkaConsumer.owns_of_uncommitted) KafkaConsumer.pass_committed reached
  exact ⟨KafkaConsumer.apportioned_of_reachable reached, justified.abandoned, handed.sorted, committed.sorted,
    justified.committed⟩

theorem messages_accounted_interrupted : ∃ consumer, consumerMachine.Reachable consumer ∧
    consumer.record.abandoned = [(0, (sampleFetch 2).message)] ∧
    consumer.record.committed = [(0, (sampleFetch 1).message)] ∧ consumer.Done 0 ∧
    consumer.record.Settled (0, (sampleFetch 1).message) := by
  obtain ⟨consumer, reached, found⟩ := Machine.reaches_of_run consumerMachine (fun _ _ => True) .new interruption
    (fun consumer => decide (consumer.record.abandoned = [(0, (sampleFetch 2).message)] ∧
      consumer.record.committed = [(0, (sampleFetch 1).message)])) rfl (by decide +kernel)
  obtain ⟨abandoned, committed⟩ := of_decide_eq_true found
  obtain ⟨-, ended, -, -, settled⟩ := messages_accounted reached
  rw [abandoned] at ended
  rw [committed] at settled
  exact ⟨consumer, reached, abandoned, committed, ended _ List.mem_cons_self, settled _ List.mem_cons_self⟩

end EventGateway.Subscription
