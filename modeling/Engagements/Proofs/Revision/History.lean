import Engagements.Proofs.Revision

/-!
Histories of a store under any number of clients. The writes to one document form a chain: each
expects the version that the one before it stamped, so that a version is used up by one write.
-/
namespace Engagements.Revision

/-- A call of a client: what it writes, the version it has read, and the time and the state of the
store when it is made. -/
structure Attempt where
  candidate : Document
  distinct : (Fields.names candidate).Nodup
  expected : String
  launching : Bool
  now : Int
  countable : now ≤ Version.lastNanosecond
  outage : Option Outage

/-- A write that succeeded: the place of its document, the version it expected and the version it
stamped. -/
structure Write where
  place : Nat
  expected : String
  version : String
  deriving DecidableEq, Repr

namespace Attempt

/-- The store as a call finds it. -/
def met (attempt : Attempt) (store : Store) : Store :=
  { store with clock := { store.clock with now := attempt.now }, outage := attempt.outage }

def perform (attempt : Attempt) (store : Store) : Result (Option Document) × Store :=
  (attempt.met store).perform
    (writeIfCurrent attempt.candidate attempt.expected attempt.launching)

/-- The write of a call that returns a document. -/
def write? (attempt : Attempt) (store : Store) : Option Write :=
  match (attempt.perform store).1 with
  | .ok (some _) =>
    (target? attempt.candidate attempt.expected store.documents).map fun place =>
      ⟨place, attempt.expected, (attempt.met store).clock.issue.1⟩
  | _ => none

end Attempt

/-- The writes of a sequence of calls. -/
def history (store : Store) : List Attempt → List Write
  | [] => []
  | attempt :: attempts =>
    (attempt.write? store).toList ++ history (attempt.perform store).2 attempts

/-- The store after a sequence of calls. -/
def settled (store : Store) : List Attempt → Store
  | [] => store
  | attempt :: attempts => settled (attempt.perform store).2 attempts

/-- What a call does, and what is remembered of it. -/
theorem attempt_cases (attempt : Attempt) (store : Store) :
    (∃ place document, target? attempt.candidate attempt.expected store.documents = some place ∧
      store.documents[place]? = some document ∧
      attempt.write? store =
        some ⟨place, attempt.expected, (attempt.met store).clock.issue.1⟩ ∧
      (attempt.perform store).2.documents = store.documents.set place
        (image (attempt.met store).clock.issue.1 attempt.candidate attempt.launching document) ∧
      (attempt.perform store).2.clock = (attempt.met store).clock.issue.2) ∨
    attempt.write? store = none ∧ (attempt.perform store).2.documents = store.documents ∧
      ((attempt.perform store).2.clock = (attempt.met store).clock ∨
        (attempt.perform store).2.clock = (attempt.met store).clock.issue.2) := by
  rcases write_cases (attempt.met store) attempt.candidate attempt.expected attempt.launching with
    ⟨place, document, _, target, stored, performed⟩ | ⟨none, outage, clock, clocks, performed⟩
  · have answered : attempt.perform store = _ := performed
    refine Or.inl ⟨place, document, target, stored, ?_, ?_, ?_⟩
    · have target : target? attempt.candidate attempt.expected store.documents = some place :=
        target
      simp only [Attempt.write?, answered, target, Option.map_some]
    · rw [answered]
      rfl
    · rw [answered]
      rfl
  · have left : (attempt.perform store).2 = _ := performed
    refine Or.inr ⟨?_, by rw [left]; rfl, by rw [left]; exact clocks⟩
    unfold Attempt.write?
    split
    · rename_i updated answer
      exact absurd answer (none updated)
    · rfl

/-! Every version of a history is later than all before it, unless it is the last of all. -/

theorem issued_le {store : Store} (attempt : Attempt)
    (countable : store.clock.issued ≤ Version.lastNanosecond) :
    store.clock.issued ≤ (attempt.perform store).2.clock.issued ∧
      (attempt.perform store).2.clock.issued ≤ Version.lastNanosecond := by
  have later : store.clock.issued ≤ Version.nextStamp store.clock.issued attempt.now :=
    Version.le_nextStamp countable
  have within : Version.nextStamp store.clock.issued attempt.now ≤ Version.lastNanosecond :=
    Version.nextStamp_le attempt.countable
  rcases attempt_cases attempt store with ⟨_, _, _, _, _, _, clock⟩ | ⟨_, _, clock | clock⟩ <;>
    rw [clock]
  · exact ⟨later, within⟩
  · exact ⟨Nat.le_refl _, countable⟩
  · exact ⟨later, within⟩

theorem issued_le_settled {store : Store} (attempts : List Attempt)
    (countable : store.clock.issued ≤ Version.lastNanosecond) :
    store.clock.issued ≤ (settled store attempts).clock.issued ∧
      (settled store attempts).clock.issued ≤ Version.lastNanosecond := by
  induction attempts generalizing store with
  | nil => exact ⟨Nat.le_refl _, countable⟩
  | cons attempt attempts ih =>
      obtain ⟨here, within⟩ := issued_le attempt countable
      obtain ⟨later, last⟩ := ih within
      exact ⟨Nat.le_trans here later, last⟩

/-- A stamp of the version that is later than one number of stamps and not later than another, if
it is not the last that can be counted. -/
def StampedWithin (least most : Nat) (version : String) : Prop :=
  ∃ stamp, version = Version.token stamp ∧
    (least < stamp ∨ stamp = Version.lastNanosecond) ∧ stamp ≤ most

theorem write?_stamped {attempt : Attempt} {store : Store} {write : Write}
    (remembered : attempt.write? store = some write)
    (countable : store.clock.issued ≤ Version.lastNanosecond) :
    StampedWithin store.clock.issued (attempt.perform store).2.clock.issued write.version := by
  rcases attempt_cases attempt store with ⟨_, _, _, _, known, _, clock⟩ | ⟨none, _⟩
  · rw [known, Option.some.injEq] at remembered
    subst remembered
    rw [clock]
    exact ⟨_, rfl, Version.lt_nextStamp countable, Nat.le_refl _⟩
  · rw [none] at remembered
    cases remembered

theorem history_stamped {store : Store} (attempts : List Attempt)
    (countable : store.clock.issued ≤ Version.lastNanosecond) :
    ∀ write ∈ history store attempts,
      StampedWithin store.clock.issued (settled store attempts).clock.issued write.version := by
  induction attempts generalizing store with
  | nil =>
      intro write member
      cases member
  | cons attempt attempts ih =>
      intro write member
      obtain ⟨here, within⟩ := issued_le attempt countable
      rcases List.mem_append.mp member with first | rest
      · obtain ⟨stamp, token, least, most⟩ :=
          write?_stamped (Option.mem_toList.mp first) countable
        have later := (issued_le_settled attempts within).1
        exact ⟨stamp, token, least, Nat.le_trans most later⟩
      · obtain ⟨stamp, token, least, most⟩ := ih within write rest
        exact ⟨stamp, token, least.imp_left (Nat.lt_of_le_of_lt here), most⟩

theorem history_sorted {store : Store} (attempts : List Attempt)
    (countable : store.clock.issued ≤ Version.lastNanosecond) :
    (history store attempts).Pairwise fun earlier later =>
      earlier.version < later.version ∨
        later.version = Version.token Version.lastNanosecond := by
  induction attempts generalizing store with
  | nil => exact List.Pairwise.nil
  | cons attempt attempts ih =>
      have within := (issued_le attempt countable).2
      refine List.pairwise_append.mpr ⟨?_, ih within, ?_⟩
      · cases attempt.write? store <;> simp
      · intro earlier first later rest
        obtain ⟨stamp, token, _, most⟩ := write?_stamped (Option.mem_toList.mp first) countable
        obtain ⟨stamp', token', least', most'⟩ := history_stamped attempts within later rest
        have last := (issued_le_settled attempts within).2
        rw [token, token']
        rcases least' with after | final
        · left
          exact Version.token_lt_token (by omega) (by omega)
        · right
          rw [final]

/-- A version is stamped once, but for the last of all once the clock has come to it. -/
theorem stamped_once {store : Store} (attempts : List Attempt)
    (countable : store.clock.issued ≤ Version.lastNanosecond) {version : String}
    (room : version = Version.token Version.lastNanosecond →
      (settled store attempts).clock.issued < Version.lastNanosecond) :
    (history store attempts).countP (·.version = version) ≤ 1 := by
  have once :
      ((history store attempts).filter (·.version = version)).Pairwise fun _ _ => False := by
    rw [List.pairwise_filter]
    refine (history_sorted attempts countable).imp_of_mem ?_
    intro earlier later _ inside sorted same same'
    rw [decide_eq_true_eq] at same same'
    rcases sorted with less | last
    · rw [same, same'] at less
      exact String.lt_irrefl _ less
    · obtain ⟨stamp, token, _, most⟩ := history_stamped attempts countable later inside
      have less : Version.token stamp < Version.token Version.lastNanosecond :=
        Version.token_lt_token (Nat.lt_of_le_of_lt most (room (same'.symm.trans last)))
          (Nat.le_refl _)
      rw [← token, last] at less
      exact String.lt_irrefl _ less
  rw [List.countP_eq_length_filter]
  cases found : (history store attempts).filter (·.version = version) with
  | nil => exact Nat.zero_le 1
  | cons first others =>
      cases others with
      | nil => exact Nat.le_refl 1
      | cons next others =>
          rw [found] at once
          exact (List.rel_of_pairwise_cons once List.mem_cons_self).elim

/-! The writes to one document. -/

/-- Each write expects the version before it, the first one the given version. -/
def Follows (version : String) : List Write → Prop
  | [] => True
  | write :: writes => write.expected = version ∧ Follows write.version writes

theorem Follows.isChain {version : String} {writes : List Write}
    (follows : Follows version writes) :
    writes.IsChain fun earlier later => later.expected = earlier.version := by
  induction writes generalizing version with
  | nil => exact List.IsChain.nil
  | cons first writes ih =>
      cases writes with
      | nil => exact List.IsChain.singleton first
      | cons next others =>
          exact List.isChain_cons_cons.mpr ⟨follows.2.1, ih follows.2⟩

/-- A version is expected as often as it is stamped, and once more if it is the given one. -/
theorem Follows.countP_expected_le {version : String} {writes : List Write}
    (follows : Follows version writes) (expected : String) :
    writes.countP (·.expected = expected) ≤
      writes.countP (·.version = expected) + if version = expected then 1 else 0 := by
  induction writes generalizing version with
  | nil => exact Nat.zero_le _
  | cons first writes ih =>
      have later := ih follows.2
      simp only [List.countP_cons, follows.1, decide_eq_true_eq]
      omega

/-- A document that carries a version is next written by a call that expects it. -/
theorem follows_history {store : Store} {place : Nat} {version : String} (attempts : List Attempt)
    (carries : ∀ document, store.documents[place]? = some document → Carries version document) :
    Follows version ((history store attempts).filter (·.place = place)) := by
  -- The version that the document carries goes along: a write to its place hands on the next one.
  induction attempts generalizing store version with
  | nil => trivial
  | cons attempt attempts ih =>
      rw [history]
      rcases attempt_cases attempt store with
        ⟨here, document, target, stored, known, documents, _⟩ | ⟨none, documents, _⟩
      · rw [known, Option.toList_some, List.singleton_append, List.filter_cons]
        by_cases same : here = place
        · subst same
          simp only [decide_true, if_true]
          obtain ⟨_, found, _, stored', _, current⟩ := target?_eq_some target
          rw [stored] at stored'
          cases stored'
          refine ⟨(carries document stored).offers current, ih fun updated after => ?_⟩
          rw [documents, List.getElem?_set_self (List.getElem?_eq_some_iff.mp stored).1] at after
          cases after
          exact carries_image _ attempt.distinct attempt.launching document
        · simp only [same, decide_false, Bool.false_eq_true, if_false]
          apply ih
          intro updated after
          rw [documents, List.getElem?_set_ne same] at after
          exact carries updated after
      · rw [none, Option.toList_none, List.nil_append]
        apply ih
        intro updated after
        rw [documents] at after
        exact carries updated after

def rivalStore : Store :=
  ⟨[[("uuid", .string "u"), ("lastUpdate", .string "v")]], 0, ⟨0, 0⟩, 5000, none⟩

/-- Two clients have read one version, and a third one what the first has written. -/
def rivals : List Attempt :=
  [⟨[("uuid", .string "u"), ("location", .string "Oslo")], by decide, "v", false, 5, by decide,
      none⟩,
    ⟨[("uuid", .string "u"), ("location", .string "Bergen")], by decide, "v", false, 3, by decide,
      none⟩,
    ⟨[("uuid", .string "u")], by decide, Version.token 5, false, 5, by decide, none⟩]

end Engagements.Revision
