import EventGateway.Subscription.Consumer

/-! The consumer runs one loop at a time, and a loop only ever reads the context of the `Subscribe` call that started
it, although it does so without the lock. -/

namespace EventGateway.Subscription
open Lib Lib.Calls Lib.RWMutex

namespace Station

def owns : Station → Bool
  | .locking | .testing | .refusing | .equipping | .marking | .releasing | .finishing | .returned => false
  | _ => true

def counted : Station → Bool
  | .locking | .testing | .refusing | .equipping | .marking | .unlocking | .adding | .returned => false
  | _ => true

def captured : Station → Option Nat
  | .fetching ctx | .reporting ctx | .sending ctx _ => some ctx
  | _ => none

end Station

namespace Goroutine

def owns : Goroutine → Bool
  | .subscribe _ place => place.owns
  | _ => false

def counted : Goroutine → Bool
  | .subscribe _ place => place.counted
  | _ => false

def subscribes : Goroutine → Bool
  | .subscribe _ _ => true
  | _ => false

theorem outside {goroutine : Goroutine} (other : goroutine.subscribes = false) :
    goroutine.owns = false ∧ goroutine.counted = false := by
  cases goroutine with
  | subscribe => cases other
  | unsubscribe | setFilter => exact ⟨rfl, rfl⟩

end Goroutine

section Operations
variable {consumer after : KafkaConsumer} {call index : Nat} {errors : Bool}

section Working
variable {place next : Station}

theorem Work.goroutines_eq (worked : Work consumer call place after next) :
    after.goroutines = consumer.goroutines := by
  cases worked with
  | _ => rfl

theorem Work.change (worked : Work consumer call place after next) :
    Change Goroutine.hold consumer.goroutines (Goroutine.subscribe errors place).hold
      (Goroutine.subscribe errors next).hold := by
  cases worked with
  | lock free => exact .locks free
  | relock free => exact .locks free
  | refused | unlock | release => exact .unlocks _
  | _ => exact .keeps _

theorem Work.wg_eq (worked : Work consumer call place after next) :
    after.wg + (if place.counted then 1 else 0) = consumer.wg + if next.counted then 1 else 0 := by
  cases worked with
  | finish left counted => rw [counted]; rfl
  | _ => rfl

theorem Work.isRunning_eq (worked : Work consumer call place after next)
    (idle : place = .marking → consumer.isRunning = false) (running : place.owns = true → consumer.isRunning = true) :
    after.isRunning.toNat + (if place.owns then 1 else 0) =
      consumer.isRunning.toNat + if next.owns then 1 else 0 := by
  cases worked with
  | mark => rw [idle rfl]; rfl
  | reset => rw [running rfl]; rfl
  | _ => rfl

theorem Work.flag_cases (worked : Work consumer call place after next) :
    after.isRunning = consumer.isRunning ∨ place = .marking ∧ after.isRunning = true ∨
      place = .resetting ∧ after.isRunning = false := by
  cases worked with
  | mark => exact .inr (.inl ⟨rfl, rfl⟩)
  | reset => exact .inr (.inr ⟨rfl, rfl⟩)
  | _ => exact .inl rfl

theorem Work.ctx_cases (worked : Work consumer call place after next) :
    after.ctx = consumer.ctx ∨ place = .equipping := by
  cases worked with
  | equip => exact .inr rfl
  | _ => exact .inl rfl

theorem Work.context (worked : Work consumer call place after next) (owns : next = .marking ∨ next.owns = true)
    (before : place = .marking ∨ place.owns = true → consumer.ctx = some call) : after.ctx = some call := by
  cases worked with
  | equip => rfl
  | mark => exact before (.inl rfl)
  | panics => exact before owns
  | lock | refuse | pass | refused | reset | release | finish =>
    rcases owns with owns | owns
    · cases owns
    · cases owns
  | _ => exact before (.inr rfl)

theorem Work.vacant (worked : Work consumer call place after next) (outside : next = .equipping ∨ next = .marking)
    (before : place = .equipping → consumer.isRunning = false) : after.isRunning = false := by
  cases worked with
  | pass idle => exact idle
  | equip => exact before rfl
  | panics place fault faulty =>
    rcases outside with rfl | rfl
    · cases faulty
    · cases faulty
  | _ =>
    rcases outside with outside | outside
    · cases outside
    · cases outside

theorem Work.fault_cases (worked : Work consumer call place after next) :
    after.fault = consumer.fault ∨ ∃ fault, Faulty consumer place fault ∧ after.fault = some fault := by
  cases worked with
  | panics place fault faulty => exact .inr ⟨fault, faulty, rfl⟩
  | _ => exact .inl rfl

theorem Work.captured_cases (worked : Work consumer call place after next) :
    next.captured = none ∨ next.captured = place.captured ∨ place.owns = true ∧ next.captured = consumer.ctx := by
  cases worked with
  | call ctx here => exact .inr (.inr ⟨rfl, here.symm⟩)
  | report ctx here => exact .inr (.inr ⟨rfl, here.symm⟩)
  | offer ctx envelope here => exact .inr (.inr ⟨rfl, here.symm⟩)
  | panics => exact .inr (.inl rfl)
  | _ => exact .inl rfl

theorem Work.done_iff (worked : Work consumer call place after next) (ctx : Nat) :
    after.Done ctx ↔ consumer.Done ctx := by
  cases worked with
  | _ => exact Iff.rfl

end Working

section Halting
variable {place next : StopAt}

theorem Halt.goroutines_eq (halted : Halt consumer index place after next) : after.goroutines = consumer.goroutines := by
  cases halted with
  | _ => rfl

theorem Halt.change (halted : Halt consumer index place after next) :
    Change Goroutine.hold consumer.goroutines (Goroutine.unsubscribe place).hold (Goroutine.unsubscribe next).hold := by
  cases halted with
  | lock free => exact .locks free
  | refused | unlock => exact .unlocks _
  | passBy place | resume place =>
    cases place with
    | _ => exact .keeps _
  | _ => exact .keeps _

theorem Halt.frame (halted : Halt consumer index place after next) :
    after.isRunning = consumer.isRunning ∧ after.ctx = consumer.ctx ∧ after.wg = consumer.wg := by
  cases halted with
  | _ => exact ⟨rfl, rfl, rfl⟩

theorem Halt.cancelling (halted : Halt consumer index place after next) (cancelling : next = .cancelling) :
    consumer.isRunning = true ∨ place = .cancelling := by
  cases halted with
  | pass running => exact .inl running
  | panics => exact .inr rfl
  | pause | reused => exact .inr cancelling
  | passBy place | resume place =>
    cases place with
    | cancelling => exact .inr rfl
    | _ => cases cancelling
  | _ => cases cancelling

end Halting

section Refitting
variable {place next : FilterAt}

theorem Refit.goroutines_eq (refitted : Refit consumer place after next) :
    after.goroutines = consumer.goroutines := by
  cases refitted with
  | _ => rfl

theorem Refit.change (refitted : Refit consumer place after next) :
    Change Goroutine.hold consumer.goroutines (Goroutine.setFilter place).hold (Goroutine.setFilter next).hold := by
  cases refitted with
  | lock filter free => exact .locks free
  | set => exact .keeps _
  | unlock => exact .unlocks _

theorem Refit.frame (refitted : Refit consumer place after next) :
    after.isRunning = consumer.isRunning ∧ after.ctx = consumer.ctx ∧ after.wg = consumer.wg ∧
      after.fault = consumer.fault := by
  cases refitted with
  | _ => exact ⟨rfl, rfl, rfl, rfl⟩

end Refitting
end Operations

namespace KafkaConsumer
variable {consumer : KafkaConsumer} {call other index : Nat} {errors : Bool} {place : Station}

/-- This call of `Subscribe` is in progress, or its loop is. -/
def At (consumer : KafkaConsumer) (call : Nat) (place : Station) : Prop :=
  ∃ errors, consumer.goroutines[call]? = some (.subscribe errors place)

theorem not_at_new : ¬KafkaConsumer.new.At call place := by
  rintro ⟨errors, found⟩
  cases found

/-- What the consumer keeps: a free or exclusive lock, a flag that says whether a call owns the consumer, the context
of the owner, and a `WaitGroup` that counts the loops. -/
structure Sole (consumer : KafkaConsumer) : Prop where
  exclusive : Exclusive Goroutine.hold consumer.goroutines
  owners : consumer.goroutines.countP Goroutine.owns = consumer.isRunning.toNat
  /-- A call that is about to own the consumer has found it idle, and still holds the lock. -/
  vacant : ∀ call place, consumer.At call place → place = .equipping ∨ place = .marking → consumer.isRunning = false
  occupied : ∀ index : Nat, consumer.goroutines[index]? = some (.unsubscribe .cancelling) → consumer.isRunning = true
  context : ∀ call place, consumer.At call place → place = .marking ∨ place.owns = true → consumer.ctx = some call
  captured : ∀ call place ctx, consumer.At call place → place.captured = some ctx → ctx = call
  counted : consumer.goroutines.countP Goroutine.counted = consumer.wg
  sound : consumer.fault ≠ some .context ∧ consumer.fault ≠ some .waitGroup

namespace Sole

theorem new : Sole KafkaConsumer.new where
  exclusive := .nil
  owners := rfl
  vacant := fun _ _ here => absurd here not_at_new
  occupied := by
    intro index found
    cases found
  context := fun _ _ here => absurd here not_at_new
  captured := fun _ _ _ here => absurd here not_at_new
  counted := rfl
  sound := ⟨nofun, nofun⟩

theorem running (sole : Sole consumer) (here : consumer.At call place) (owns : place.owns = true) :
    consumer.isRunning = true := by
  obtain ⟨errors, found⟩ := here
  have positive : 0 < consumer.goroutines.countP Goroutine.owns :=
    List.countP_pos_iff.mpr ⟨_, List.mem_of_getElem? found, owns⟩
  cases flag : consumer.isRunning with
  | true => rfl
  | false =>
    rw [sole.owners, flag] at positive
    cases positive

theorem owned (sole : Sole consumer) (running : consumer.isRunning = true) :
    ∃ call place, consumer.At call place ∧ place.owns = true := by
  have one : consumer.goroutines.countP Goroutine.owns = 1 := by
    rw [sole.owners, running]
    rfl
  obtain ⟨owner, goroutine, found, owns, -⟩ := countP_eq_one_iff.mp one
  cases goroutine with
  | subscribe errors place => exact ⟨owner, place, ⟨errors, found⟩, owns⟩
  | unsubscribe | setFilter => cases owns

theorem positive (sole : Sole consumer) (here : consumer.At call place) (counted : place.counted = true) :
    0 < consumer.wg := by
  obtain ⟨errors, found⟩ := here
  rw [← sole.counted]
  exact List.countP_pos_iff.mpr ⟨_, List.mem_of_getElem? found, counted⟩

theorem unique (sole : Sole consumer) {place' : Station} (here : consumer.At call place)
    (there : consumer.At other place') (owns : place.owns = true) (owns' : place'.owns = true) : call = other := by
  have one : consumer.goroutines.countP Goroutine.owns = 1 := by
    rw [sole.owners, sole.running here owns]
    rfl
  obtain ⟨owner, -, -, -, others⟩ := countP_eq_one_iff.mp one
  have only {index : Nat} {place : Station} (here : consumer.At index place) (owns : place.owns = true) :
      index = owner := by
    by_contra apart
    obtain ⟨errors, found⟩ := here
    cases (others index _ apart found).symm.trans owns
  rw [only here owns, only there owns']

theorem alone (sole : Sole consumer) {one another : Goroutine} (here : consumer.goroutines[index]? = some one)
    (there : consumer.goroutines[other]? = some another) (apart : other ≠ index) (holds : one.hold = some .write)
    (holds' : another.hold = some .write) : False := by
  cases (sole.exclusive _ _ _ _ apart.symm here there holds).symm.trans holds'

end Sole

section Moving
variable {after : KafkaConsumer} {next : Station}

theorem at_work_iff (found : consumer.goroutines[call]? = some (.subscribe errors place))
    (worked : Work consumer call place after next) {there : Station} :
    (after.put call (.subscribe errors next)).At other there ↔
      other = call ∧ there = next ∨ other ≠ call ∧ consumer.At other there := by
  unfold At put
  simp only [worked.goroutines_eq, getElem?_set_of_found found]
  split
  next here =>
    constructor
    · rintro ⟨errors', own⟩
      cases own
      exact .inl ⟨here, rfl⟩
    · rintro (⟨-, rfl⟩ | ⟨apart, -⟩)
      · exact ⟨errors, rfl⟩
      · exact absurd here apart
  next apart =>
    constructor
    · intro before
      exact .inr ⟨apart, before⟩
    · rintro (⟨here, -⟩ | ⟨-, before⟩)
      · exact absurd here apart
      · exact before

theorem at_work (found : consumer.goroutines[call]? = some (.subscribe errors place))
    (worked : Work consumer call place after next) {there : Station}
    (moved : (after.put call (.subscribe errors next)).At other there) :
    other = call ∧ there = next ∨ other ≠ call ∧ consumer.At other there :=
  (at_work_iff found worked).mp moved

theorem at_put_iff {moved next : Goroutine} (found : consumer.goroutines[index]? = some moved)
    (same : after.goroutines = consumer.goroutines) (other : moved.subscribes = false)
    (other' : next.subscribes = false) : (after.put index next).At call place ↔ consumer.At call place := by
  unfold At put
  simp only [same, getElem?_set_of_found found]
  split
  next here =>
    subst here
    constructor
    · rintro ⟨errors, own⟩
      cases own
      cases other'
    · rintro ⟨errors, own⟩
      cases found.symm.trans own
      cases other
  next => rfl

end Moving

theorem at_begin {goroutine : Goroutine} (fresh : goroutine.Fresh) (here : (consumer.begin goroutine).At call place) :
    place = .locking ∨ consumer.At call place := by
  obtain ⟨errors, there⟩ := here
  rcases found_append there with ⟨-, rfl⟩ | before
  · cases fresh
    exact .inl rfl
  · exact .inr ⟨errors, before⟩

namespace Sole

theorem begin (sole : Sole consumer) {goroutine : Goroutine} (fresh : goroutine.Fresh) :
    Sole (consumer.begin goroutine) where
  exclusive := by
    apply sole.exclusive.append
    cases fresh with
    | _ => rfl
  owners := by
    have idle : [goroutine].countP Goroutine.owns = 0 := by
      cases fresh with
      | _ => rfl
    show (consumer.goroutines ++ [goroutine]).countP Goroutine.owns = _
    rw [List.countP_append, idle]
    exact sole.owners
  vacant := by
    intro call place here outside
    rcases at_begin fresh here with rfl | before
    · rcases outside with outside | outside <;> cases outside
    · exact sole.vacant call place before outside
  occupied := by
    intro index there
    rcases found_append there with ⟨-, rfl⟩ | before
    · cases fresh
    · exact sole.occupied index before
  context := by
    intro call place here owns
    rcases at_begin fresh here with rfl | before
    · rcases owns with owns | owns <;> cases owns
    · exact sole.context call place before owns
  captured := by
    intro call place ctx here captured
    rcases at_begin fresh here with rfl | before
    · cases captured
    · exact sole.captured call place ctx before captured
  counted := by
    have outside : [goroutine].countP Goroutine.counted = 0 := by
      cases fresh with
      | _ => rfl
    show (consumer.goroutines ++ [goroutine]).countP Goroutine.counted = _
    rw [List.countP_append, outside]
    exact sole.counted
  sound := sole.sound

/-- The only nil fields that a goroutine can meet are the serializer and the filter. -/
theorem expected (sole : Sole consumer) (here : consumer.At call place) {fault : Fault}
    (faulty : Faulty consumer place fault) : fault ≠ .context ∧ fault ≠ .waitGroup := by
  cases faulty with
  | poll missing | call missing | report missing | offer _ missing =>
    cases missing.symm.trans (sole.context call _ here (.inr rfl))
  | decode | filter | add => exact ⟨nofun, nofun⟩
  | finish zero => exact absurd zero (sole.positive here rfl).ne'

section Advancing
variable {after : KafkaConsumer}

theorem work (sole : Sole consumer) {next : Station} (found : consumer.goroutines[call]? = some (.subscribe errors place))
    (worked : Work consumer call place after next) :
    Sole (after.put call (.subscribe errors next)) := by
  have here : consumer.At call place := ⟨errors, found⟩
  have same := worked.goroutines_eq
  exact {
    exclusive := by
      show Exclusive _ (after.goroutines.set call _)
      rw [same]
      exact sole.exclusive.set found worked.change
    owners := by
      have counts : (consumer.goroutines.set call (.subscribe errors next)).countP Goroutine.owns +
          (if place.owns then 1 else 0) = consumer.goroutines.countP Goroutine.owns + if next.owns then 1 else 0 :=
        countP_set_of_found found
      have flag := worked.isRunning_eq (fun marking => sole.vacant call place here (.inr marking)) (sole.running here)
      have before := sole.owners
      show (after.goroutines.set call _).countP _ = after.isRunning.toNat
      rw [same]
      omega
    vacant := by
      intro other there moved outside
      show after.isRunning = false
      rcases at_work found worked moved with ⟨rfl, rfl⟩ | ⟨apart, before⟩
      · exact worked.vacant outside (fun equipping => sole.vacant _ place here (.inl equipping))
      · obtain ⟨errors', before⟩ := before
        have idle := sole.vacant other there ⟨errors', before⟩ outside
        have holds : (Goroutine.subscribe errors' there).hold = some .write := by
          rcases outside with rfl | rfl <;> rfl
        rcases worked.flag_cases with kept | ⟨rfl, -⟩ | ⟨-, cleared⟩
        · rw [kept, idle]
        · exact (sole.alone found before apart rfl holds).elim
        · exact cleared
    occupied := by
      intro index there
      show after.isRunning = true
      rcases found_set (same ▸ found) there with ⟨-, own⟩ | ⟨apart, before⟩
      · cases own
      · rw [same] at before
        rcases worked.flag_cases with kept | ⟨-, set⟩ | ⟨rfl, -⟩
        · rw [kept, sole.occupied index before]
        · exact set
        · exact (sole.alone found before apart rfl rfl).elim
    context := by
      intro other there moved owns
      show after.ctx = some other
      rcases at_work found worked moved with ⟨rfl, rfl⟩ | ⟨apart, before⟩
      · exact worked.context owns (sole.context _ place here)
      · rcases worked.ctx_cases with kept | rfl
        · rw [kept]
          exact sole.context other there before owns
        · obtain ⟨errors', before⟩ := before
          rcases owns with rfl | owns
          · exact (sole.alone found before apart rfl rfl).elim
          · cases (sole.vacant _ _ here (.inl rfl)).symm.trans (sole.running ⟨errors', before⟩ owns)
    captured := by
      intro other there ctx moved captured
      rcases at_work found worked moved with ⟨rfl, rfl⟩ | ⟨-, before⟩
      · rcases worked.captured_cases with none | kept | ⟨owns, read⟩
        · cases none.symm.trans captured
        · exact sole.captured _ place ctx here (kept ▸ captured)
        · have own := sole.context _ place here (.inr owns)
          exact Option.some.inj (captured.symm.trans (read.trans own))
      · exact sole.captured other there ctx before captured
    counted := by
      have counts : (consumer.goroutines.set call (.subscribe errors next)).countP Goroutine.counted +
          (if place.counted then 1 else 0) =
          consumer.goroutines.countP Goroutine.counted + if next.counted then 1 else 0 :=
        countP_set_of_found found
      have group := worked.wg_eq
      have before := sole.counted
      show (after.goroutines.set call _).countP _ = after.wg
      rw [same]
      omega
    sound := by
      show after.fault ≠ some .context ∧ after.fault ≠ some .waitGroup
      rcases worked.fault_cases with kept | ⟨fault, faulty, failed⟩
      · rw [kept]
        exact sole.sound
      · have expected := sole.expected here faulty
        rw [failed, Ne, Ne, Option.some.injEq, Option.some.injEq]
        exact expected }

/-- A call of another method keeps the order, if it leaves alone what the loops share. -/
theorem beside (sole : Sole consumer) {moved next : Goroutine} (found : consumer.goroutines[index]? = some moved)
    (same : after.goroutines = consumer.goroutines)
    (frame : after.isRunning = consumer.isRunning ∧ after.ctx = consumer.ctx ∧ after.wg = consumer.wg)
    (change : Change Goroutine.hold consumer.goroutines moved.hold next.hold)
    (other : moved.subscribes = false) (other' : next.subscribes = false)
    (occupied : next = .unsubscribe .cancelling → consumer.isRunning = true)
    (sound : after.fault ≠ some .context ∧ after.fault ≠ some .waitGroup) :
    Sole (after.put index next) := by
  obtain ⟨flag, ctx, wg⟩ := frame
  have before {call : Nat} {place : Station} (there : (after.put index next).At call place) : consumer.At call place :=
    (at_put_iff found same other other').mp there
  exact {
    exclusive := by
      show Exclusive _ (after.goroutines.set index _)
      rw [same]
      exact sole.exclusive.set found change
    owners := by
      show (after.goroutines.set index _).countP _ = after.isRunning.toNat
      rw [same, flag, ← sole.owners]
      exact countP_set_of_kept found ((Goroutine.outside other').1.trans (Goroutine.outside other).1.symm)
    vacant := by
      intro call place there outside
      exact flag.trans (sole.vacant call place (before there) outside)
    occupied := by
      intro place there
      refine flag.trans ?_
      rcases found_set (same ▸ found) there with ⟨-, own⟩ | ⟨-, waiting⟩
      · exact occupied own.symm
      · exact sole.occupied place (same ▸ waiting)
    context := by
      intro call place there owns
      exact ctx.trans (sole.context call place (before there) owns)
    captured := by
      intro call place ctx there captured
      exact sole.captured call place ctx (before there) captured
    counted := by
      show (after.goroutines.set index _).countP _ = after.wg
      rw [same, wg, ← sole.counted]
      exact countP_set_of_kept found ((Goroutine.outside other').2.trans (Goroutine.outside other).2.symm)
    sound := sound }

theorem halt (sole : Sole consumer) {place next : StopAt} (alive : consumer.fault = none)
    (found : consumer.goroutines[index]? = some (.unsubscribe place)) (halted : Halt consumer index place after next) :
    Sole (after.put index (.unsubscribe next)) := by
  apply sole.beside found halted.goroutines_eq halted.frame halted.change rfl rfl
  · intro cancelling
    rcases halted.cancelling (Goroutine.unsubscribe.inj cancelling) with running | rfl
    · exact running
    · exact sole.occupied index found
  · cases halted with
    | reused => exact ⟨nofun, nofun⟩
    | panics missing =>
      obtain ⟨owner, _, there, owns⟩ := sole.owned (sole.occupied index found)
      cases missing.symm.trans (sole.context owner _ there (.inr owns))
    | _ => rw [alive]; exact ⟨nofun, nofun⟩

theorem refit (sole : Sole consumer) {place next : FilterAt} (alive : consumer.fault = none)
    (found : consumer.goroutines[index]? = some (.setFilter place)) (refitted : Refit consumer place after next) :
    Sole (after.put index (.setFilter next)) := by
  obtain ⟨flag, ctx, wg, fault⟩ := refitted.frame
  apply sole.beside found refitted.goroutines_eq ⟨flag, ctx, wg⟩ refitted.change rfl rfl nofun
  rw [fault, alive]
  exact ⟨nofun, nofun⟩

end Advancing

theorem step (sole : Sole consumer) {label : ConsumerStep} {after : KafkaConsumer}
    (stepped : consumer.step label = some after) : Sole after := by
  obtain ⟨alive, moved⟩ := step_cases stepped
  cases moved with
  | begin _ _ fresh _ => exact sole.begin fresh
  | work _ _ _ _ _ _ found worked => exact sole.work found worked
  | halt _ _ _ _ _ found halted => exact sole.halt alive found halted
  | refit _ _ _ _ _ found refitted => exact sole.refit alive found refitted
  | setSerializer | commitOffset | streamEnds | wake =>
    exact ⟨sole.exclusive, sole.owners, sole.vacant, sole.occupied, sole.context, sole.captured, sole.counted, sole.sound⟩

theorem of_reachable (reached : consumerMachine.Reachable consumer) : Sole consumer := by
  refine reached.invariant Sole ?_ ?_
  · rintro _ rfl
    exact .new
  · intro state label after _ sole _ stepped
    exact sole.step stepped

end Sole

/-- A step that is not one of a call of `Subscribe` or of its loop. -/
structure Beside (consumer after : KafkaConsumer) : Prop where
  before : ∀ call place, after.At call place → place = .locking ∨ consumer.At call place
  stays : ∀ call place, consumer.At call place → after.At call place
  record : after.record = consumer.record
  done : ∀ ctx, consumer.Done ctx → after.Done ctx

theorem done_update {flags : Nat → Bool} {ctx other : Nat} (done : flags ctx = true) :
    Function.update flags other true ctx = true := by
  by_cases here : ctx = other
  · rw [here, Function.update_self]
  · rw [Function.update_of_ne here, done]

namespace Beside
variable {after : KafkaConsumer}

theorem begin {goroutine : Goroutine} (fresh : goroutine.Fresh) : Beside consumer (consumer.begin goroutine) where
  before := fun _ _ => at_begin fresh
  stays := fun _ _ ⟨errors, found⟩ => ⟨errors, getElem?_append_of_found found⟩
  record := rfl
  done := fun _ => id

theorem halt {place next : StopAt} (found : consumer.goroutines[index]? = some (.unsubscribe place))
    (halted : Halt consumer index place after next) : Beside consumer (after.put index (.unsubscribe next)) where
  before := fun _ _ there => .inr ((at_put_iff found halted.goroutines_eq rfl rfl).mp there)
  stays := fun _ _ => (at_put_iff found halted.goroutines_eq rfl rfl).mpr
  record := by
    cases halted with
    | _ => rfl
  done := by
    intro ctx done
    cases halted with
    | cancel => exact done.imp_right done_update
    | _ => exact done

theorem refit {place next : FilterAt} (found : consumer.goroutines[index]? = some (.setFilter place))
    (refitted : Refit consumer place after next) : Beside consumer (after.put index (.setFilter next)) where
  before := fun _ _ there => .inr ((at_put_iff found refitted.goroutines_eq rfl rfl).mp there)
  stays := fun _ _ => (at_put_iff found refitted.goroutines_eq rfl rfl).mpr
  record := by
    cases refitted with
    | _ => rfl
  done := by
    intro ctx done
    cases refitted with
    | _ => exact done

end Beside

/-- A step is one of a call of `Subscribe` or of its loop, or it is beside them. -/
inductive Turn (consumer : KafkaConsumer) : ConsumerStep → KafkaConsumer → Prop where
  | work (call : Nat) (choice : Choice) (errors : Bool) (place next : Station) (mid : KafkaConsumer)
      (found : consumer.goroutines[call]? = some (.subscribe errors place)) (worked : Work consumer call place mid next) :
      Turn consumer (.advance call choice) (mid.put call (.subscribe errors next))
  | beside (label : ConsumerStep) (after : KafkaConsumer) (beside : Beside consumer after)
      (apart : ∀ call choice place, consumer.At call place → label ≠ .advance call choice) : Turn consumer label after

theorem turn_of_step {label : ConsumerStep} {after : KafkaConsumer} (stepped : consumer.step label = some after) :
    Turn consumer label after := by
  cases (step_cases stepped).2 with
  | begin _ _ fresh call => exact .beside _ _ (.begin fresh) (fun index choice _ _ => call index choice)
  | work _ _ _ _ _ _ found worked => exact .work _ _ _ _ _ _ found worked
  | halt index _ _ _ _ found halted =>
    refine .beside _ _ (.halt found halted) ?_
    rintro call _ place ⟨errors, there⟩ same
    cases same
    cases found.symm.trans there
  | refit index _ _ _ _ found refitted =>
    refine .beside _ _ (.refit found refitted) ?_
    rintro call _ place ⟨errors, there⟩ same
    cases same
    cases found.symm.trans there
  | setSerializer | commitOffset | wake =>
    refine .beside _ _ ⟨fun _ _ => .inr, fun _ _ => id, rfl, fun _ => id⟩ ?_
    intro call _ place _ same
    cases same
  | streamEnds call =>
    refine .beside _ _ ⟨fun _ _ => .inr, fun _ _ => id, rfl, fun _ => Or.imp_left done_update⟩ ?_
    intro call _ place _ same
    cases same

/-- What holds at first and is kept by the operations of the loops, and beside them, holds in every state. -/
theorem holds_of_turns (holds : KafkaConsumer → Prop) (initially : holds .new)
    (work : ∀ {consumer mid : KafkaConsumer} {call : Nat} {errors : Bool} {place next : Station}, Sole consumer →
      holds consumer → consumer.goroutines[call]? = some (.subscribe errors place) →
      Work consumer call place mid next → holds (mid.put call (.subscribe errors next)))
    (beside : ∀ {consumer after : KafkaConsumer}, holds consumer → Beside consumer after → holds after)
    (reached : consumerMachine.Reachable consumer) : holds consumer := by
  refine reached.invariant holds ?_ ?_
  · rintro _ rfl
    exact initially
  · intro state label after before held _ stepped
    cases turn_of_step stepped with
    | work _ _ _ _ _ _ found worked => exact work (Sole.of_reachable before) held found worked
    | beside _ _ aside _ => exact beside held aside

end KafkaConsumer

/-- In every state of the consumer: `isRunning` is set exactly while one call of `Subscribe`, or its loop, owns the
consumer, and never two of them; the context in the consumer is then that call's own, also where the loop has read it
without the lock; the `WaitGroup` counts the loops that `Unsubscribe` has to wait for; and no goroutine meets a
missing context or takes the counter below zero. -/
theorem one_loop_at_a_time {consumer : KafkaConsumer} (reached : consumerMachine.Reachable consumer) :
    (consumer.isRunning = true ↔ ∃ call place, consumer.At call place ∧ place.owns = true) ∧
      (∀ call other place place', consumer.At call place → consumer.At other place' → place.owns = true →
        place'.owns = true → call = other) ∧
      (∀ call place, consumer.At call place → place.owns = true →
        consumer.ctx = some call ∧ ∀ ctx, place.captured = some ctx → ctx = call) ∧
      consumer.wg = consumer.goroutines.countP Goroutine.counted ∧
      consumer.fault ≠ some .context ∧ consumer.fault ≠ some .waitGroup := by
  have sole := KafkaConsumer.Sole.of_reachable reached
  refine ⟨⟨sole.owned, ?_⟩, ?_, ?_, sole.counted.symm, sole.sound⟩
  · rintro ⟨call, place, here, owns⟩
    exact sole.running here owns
  · intro call other place place' here there owns owns'
    exact sole.unique here there owns owns'
  · intro call place here owns
    exact ⟨sole.context call place here (.inr owns), fun ctx => sole.captured call place ctx here⟩

/-- The loop of the first call fetches a message and comes as far as the select of `sendEvent`. -/
def takesUp (offset : Int64) : List ConsumerStep :=
  List.replicate 2 (.advance 0 .proceeds) ++ [.advance 0 (.fetches (sampleFetch offset))] ++
    List.replicate 4 (.advance 0 .proceeds)

/-- A loop hands over one message and gives up the next one, since `Unsubscribe` cancels its context; a second call of
`Subscribe` is refused meanwhile. -/
def interruption : List ConsumerStep :=
  [.setSerializer jsonWiring.serializer, .subscribe true] ++
    List.replicate 7 (.advance 0 .proceeds) ++ takesUp 1 ++ [.advance 0 .taken, .advance 0 .proceeds] ++ takesUp 2 ++
    [.subscribe false, .unsubscribe] ++ List.replicate 3 (.advance 1 .proceeds) ++
    List.replicate 4 (.advance 2 .proceeds) ++ [.advance 0 .done]

theorem one_loop_interrupted : ∃ consumer, consumerMachine.Reachable consumer ∧ consumer.goroutines.length = 3 ∧
    consumer.isRunning = true ∧ ∃ call place, consumer.At call place ∧ place.owns = true := by
  obtain ⟨consumer, reached, found⟩ := Machine.reaches_of_run consumerMachine (fun _ _ => True) .new interruption
    (fun consumer => decide (consumer.goroutines.length = 3 ∧ consumer.isRunning = true)) rfl (by decide +kernel)
  obtain ⟨three, running⟩ := of_decide_eq_true found
  exact ⟨consumer, reached, three, running, (one_loop_at_a_time reached).1.mp running⟩

end EventGateway.Subscription
