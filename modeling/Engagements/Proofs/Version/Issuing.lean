import Engagements.Proofs.Date
import Mathlib.Data.List.Forall2

/-!
The tokens that one clock issues: they follow one another in the order of texts, however its
readings jump, as long as there are nanoseconds left to count.
-/
namespace Engagements

namespace Version

/-- The stamps that are issued after a previous one, one for each reading of the clock. -/
def stamps (previous : Nat) : List Int → List Nat
  | [] => []
  | now :: readings => nextStamp previous now :: stamps (nextStamp previous now) readings

/-- A stamp is later than the previous one, and takes one nanosecond of the room that is left to
it or to the reading. -/
theorem nextStamp_within {previous room : Nat} {now : Int}
    (counted : previous + (room + 1) ≤ lastNanosecond)
    (present : now + (room + 1 : Nat) ≤ lastNanosecond) :
    previous < nextStamp previous now ∧ nextStamp previous now + room ≤ lastNanosecond := by
  unfold nextStamp
  omega

theorem length_stamps (previous : Nat) (readings : List Int) :
    (stamps previous readings).length = readings.length := by
  induction readings generalizing previous with
  | nil => rfl
  | cons now readings ih => exact congrArg (· + 1) (ih _)

/-- The stamps of a run, by the step above: each leaves room for those behind it. -/
theorem stamps_ascend {previous : Nat} {readings : List Int}
    (counted : previous + readings.length ≤ lastNanosecond)
    (present : ∀ now ∈ readings, now + readings.length ≤ lastNanosecond) :
    (previous :: stamps previous readings).IsChain (· < ·) ∧
      ∀ stamp ∈ stamps previous readings, stamp ≤ lastNanosecond := by
  induction readings generalizing previous with
  | nil => exact ⟨.singleton previous, fun _ none => absurd none List.not_mem_nil⟩
  | cons now readings ih =>
      obtain ⟨later, room⟩ := nextStamp_within counted (present now List.mem_cons_self)
      have others : ∀ other ∈ readings, other + readings.length ≤ lastNanosecond := by
        intro other member
        have bounded := present other (List.mem_cons_of_mem _ member)
        rw [List.length_cons] at bounded
        omega
      obtain ⟨ascending, bounded⟩ := ih room others
      refine ⟨.cons_cons later ascending, fun stamp member => ?_⟩
      rcases List.mem_cons.mp member with here | behind
      · omega
      · exact bounded stamp behind

/-! The form of a token, place by place. -/

/-- Characters in the places of a form: any digit for a `d`, else the character itself. -/
def Follows (form cs : List Char) : Prop :=
  List.Forall₂ (fun c place => (if place = 'd' then c.isDigit else c == place) = true) cs form

theorem isWellFormed_iff (text : String) :
    isWellFormed text = true ↔
      Follows "dddd-dd-ddTdd:dd:dd.dddddddddZ".toList text.toList := by
  unfold isWellFormed Follows
  rw [List.forall₂_iff_zip, Bool.and_eq_true, List.all_eq_true, beq_iff_eq]
  refine and_congr_right fun _ => ⟨fun each c place member => each (c, place) member,
    fun each pair member => each member⟩

theorem Follows.append {form form' cs cs' : List Char} (front : Follows form cs)
    (back : Follows form' cs') : Follows (form ++ form') (cs ++ cs') :=
  List.rel_append front back

theorem follows_mark {mark : Char} (plain : mark ≠ 'd') : Follows [mark] [mark] := by
  refine .cons ?_ .nil
  rw [if_neg plain]
  exact beq_self_eq_true mark

theorem follows_padded {width n : Nat} (small : n < 10 ^ (width + 1)) :
    Follows (List.replicate (width + 1) 'd') (Date.padded (width + 1) n).toList := by
  have length : (Date.padded (width + 1) n).toList.length = width + 1 :=
    (Date.sorted_padded width).length n small
  have digits : ∀ c ∈ (Date.padded (width + 1) n).toList, c.isDigit = true :=
    fun c member => Date.isDigit_of_mem_padded member
  refine List.forall₂_iff_zip.mpr ⟨by rw [length, List.length_replicate], ?_⟩
  intro c place member
  have inside := List.of_mem_zip member
  rw [if_pos (List.eq_of_mem_replicate inside.2)]
  exact digits c inside.1

theorem follows_date {days : Nat} (small : days < Date.fourDigitDays) :
    Follows "dddd-dd-dd".toList (Date.ofDays days).toText.toList := by
  have bounds := Date.ofDays_bounds days
  have year : (Date.ofDays days).year.natAbs < 10 ^ (3 + 1) := by
    unfold Date.fourDigitDays at small
    omega
  have hyphen : Follows ['-'] ['-'] := follows_mark (by decide)
  rw [Date.toList_ofDays days small]
  exact (follows_padded year).append <| hyphen.append <|
    (follows_padded (by omega : (Date.ofDays days).month < 10 ^ (1 + 1))).append <|
    hyphen.append (follows_padded (by omega : (Date.ofDays days).day < 10 ^ (1 + 1)))

theorem follows_time {second : Nat} (small : second < secondsInDay) :
    Follows "dd:dd:dd".toList (timeText second).toList := by
  have hours : second / 3600 < 10 ^ (1 + 1) := by
    unfold secondsInDay at small
    omega
  have minutes : second / 60 % 60 < 10 ^ (1 + 1) := by omega
  have seconds : second % 60 < 10 ^ (1 + 1) := by omega
  have colon : Follows [':'] [':'] := follows_mark (by decide)
  have split : (timeText second).toList = (Date.padded 2 (second / 3600)).toList ++
      ([':'] ++ ((Date.padded 2 (second / 60 % 60)).toList ++
        ([':'] ++ (Date.padded 2 (second % 60)).toList))) := by
    simp [timeText]
  rw [split]
  exact (follows_padded hours).append <| colon.append <| (follows_padded minutes).append <|
    colon.append (follows_padded seconds)

theorem isWellFormed_token {nanosecond : Nat} (countable : nanosecond ≤ lastNanosecond) :
    isWellFormed (token nanosecond) = true := by
  have days : nanosecond / nanosecondsInSecond / secondsInDay < Date.fourDigitDays := by
    have last : lastNanosecond = 9223372036854775807 := by decide
    unfold nanosecondsInSecond secondsInDay Date.fourDigitDays
    omega
  have time : nanosecond / nanosecondsInSecond % secondsInDay < secondsInDay :=
    Nat.mod_lt _ (by decide)
  have fraction : nanosecond % nanosecondsInSecond < 10 ^ (8 + 1) := Nat.mod_lt _ (by decide)
  have split : (token nanosecond).toList =
      (Date.ofDays (nanosecond / nanosecondsInSecond / secondsInDay)).toText.toList ++
        (['T'] ++ ((timeText (nanosecond / nanosecondsInSecond % secondsInDay)).toList ++
          (['.'] ++ ((Date.padded 9 (nanosecond % nanosecondsInSecond)).toList ++ ['Z'])))) := by
    simp [token, secondText]
  rw [isWellFormed_iff, split]
  exact (follows_date days).append <| (follows_mark (by decide)).append <|
    (follows_time time).append <| (follows_mark (by decide)).append <|
    (follows_padded fraction).append (follows_mark (by decide))

end Version

namespace Clock

/-- The tokens that are issued one after another, each at the next reading of the clock. -/
def tokens (clock : Clock) : List Int → List String
  | [] => []
  | now :: readings =>
    let (token, next) := issue { clock with now := now }
    token :: tokens next readings

theorem tokens_eq (clock : Clock) (readings : List Int) :
    clock.tokens readings = (Version.stamps clock.issued readings).map Version.token := by
  induction readings generalizing clock with
  | nil => rfl
  | cons now readings ih =>
      rw [tokens, Version.stamps, List.map_cons]
      exact congrArg _ (ih _)

/-- The readings may repeat, jump and go back. -/
theorem tokens_increase (clock : Clock) (readings : List Int)
    (counted : clock.issued + readings.length ≤ Version.lastNanosecond)
    (present : ∀ now ∈ readings, now + readings.length ≤ Version.lastNanosecond) :
    (clock.tokens readings).length = readings.length ∧
      (clock.tokens readings).Nodup ∧ (clock.tokens readings).Pairwise (· < ·) ∧
      ∀ token ∈ clock.tokens readings, Version.isWellFormed token = true := by
  obtain ⟨ascending, bounded⟩ := Version.stamps_ascend counted present
  have increasing : (clock.tokens readings).Pairwise (· < ·) := by
    rw [tokens_eq, List.pairwise_map]
    refine (List.pairwise_cons.mp ascending.pairwise).2.imp_of_mem fun _ late less => ?_
    exact Version.token_lt_token less (bounded _ late)
  refine ⟨?_, increasing.imp ?_, increasing, ?_⟩
  · rw [tokens_eq, List.length_map, Version.length_stamps]
  · intro token other less same
    exact String.lt_irrefl token (same ▸ less)
  · intro token issued
    rw [tokens_eq] at issued
    obtain ⟨stamp, member, same⟩ := List.mem_map.mp issued
    rw [← same]
    exact Version.isWellFormed_token (bounded stamp member)

/-- A clock that stands still, goes back, and goes back before the first of January 1970. -/
theorem tokens_of_unsteady_clock :
    (Clock.mk 0 5).tokens [7, 7, 3, -1] =
        ["1970-01-01T00:00:00.000000007Z", "1970-01-01T00:00:00.000000008Z",
          "1970-01-01T00:00:00.000000009Z", "1970-01-01T00:00:00.000000010Z"] ∧
      ((Clock.mk 0 5).tokens [7, 7, 3, -1]).Pairwise (· < ·) := by
  refine ⟨by decide +kernel, ?_⟩
  exact (tokens_increase (Clock.mk 0 5) [7, 7, 3, -1] (by decide) (by decide)).2.2.1

end Clock

end Engagements
