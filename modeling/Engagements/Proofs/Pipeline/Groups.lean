import Engagements.Pipeline.Run
import Engagements.Proofs.Json.Compact
import Mathlib.Algebra.BigOperators.Group.List.Lemmas
import Mathlib.Algebra.GroupWithZero.Nat

/-!
Documents in groups. The documents of one key are a group, and the groups stand in the order in
which their keys first occur.
-/
namespace Engagements

/-! First occurrences. -/

namespace Occurrence

variable {α : Type} [DecidableEq α]

theorem eraseDups_concat (keys : List α) (key : α) :
    (keys ++ [key]).eraseDups =
      if key ∈ keys then keys.eraseDups else keys.eraseDups ++ [key] := by
  rw [List.eraseDups_append]
  by_cases known : key ∈ keys
  · simp [List.removeAll, known]
  · simp [List.removeAll, known, List.eraseDups_cons]

theorem nodup_eraseDups (keys : List α) : keys.eraseDups.Nodup := by
  induction keys using List.reverseRecOn with
  | nil => exact List.nodup_nil
  | append_singleton keys key ih =>
      rw [eraseDups_concat]
      by_cases known : key ∈ keys
      · rw [if_pos known]
        exact ih
      · rw [if_neg known]
        have fresh : key ∉ keys.eraseDups := fun member => known (List.mem_eraseDups.mp member)
        exact List.nodup_append.mpr ⟨ih, List.nodup_singleton key, by
          intro other member new single same
          rw [List.mem_singleton] at single
          exact fresh (single ▸ same ▸ member)⟩

theorem eraseDups_map {β : Type} [DecidableEq β] {f : α → β} (injective : Function.Injective f)
    (keys : List α) : (keys.map f).eraseDups = keys.eraseDups.map f := by
  induction keys using List.reverseRecOn with
  | nil => rfl
  | append_singleton keys key ih =>
      rw [List.map_append, List.map_singleton, eraseDups_concat, eraseDups_concat, ih]
      by_cases known : key ∈ keys
      · rw [if_pos known, if_pos (List.mem_map_of_mem known)]
      · have fresh : f key ∉ keys.map f := fun member =>
          known ((List.mem_map_of_injective injective).mp member)
        rw [if_neg known, if_neg fresh, List.map_append, List.map_singleton]

/-- Each occurrence is counted with its first one. -/
theorem sum_count_eraseDups (keys : List α) :
    (keys.eraseDups.map fun key => keys.count key).sum = keys.length := by
  have permuted : keys.eraseDups.Perm keys.dedup := by
    refine (List.perm_ext_iff_of_nodup (nodup_eraseDups keys) keys.nodup_dedup).mpr ?_
    intro key
    rw [List.mem_eraseDups, List.mem_dedup]
  calc (keys.eraseDups.map fun key => keys.count key).sum =
        (keys.dedup.map fun key => keys.count key).sum := (permuted.map _).sum_eq
    _ = keys.length := keys.sum_map_count_dedup_eq_length

end Occurrence

/-! Groups. -/

namespace DocumentGroup

variable {name : Document → String} {key : Document → Value} {documents : List Document}
  {document : Document}

/-- The group of the documents that have a name. -/
def named (name : Document → String) (documents : List Document) (text : String) :
    DocumentGroup :=
  ⟨Json.compact (.string text), .string text,
    documents.filter fun document => name document = text⟩

/-- The group of the documents that have a key. -/
def sharing (key : Document → Value) (documents : List Document) (value : Value) : DocumentGroup :=
  ⟨Json.compact value, value, documents.filter fun document => key document = value⟩

theorem text_sharing_iff (value other : Value) :
    (sharing key documents value).text = Json.compact other ↔ value = other := by
  constructor
  · intro same
    exact Json.compact_injective same
  · intro same
    rw [same, sharing]

theorem sharing_concat_self :
    sharing key (documents ++ [document]) (key document) =
      { sharing key documents (key document) with
        documents := (sharing key documents (key document)).documents ++ [document] } := by
  simp [sharing]

theorem sharing_concat_of_ne {value : Value} (other : value ≠ key document) :
    sharing key (documents ++ [document]) value = sharing key documents value := by
  simp [sharing, Ne.symm other]

theorem place_of_mem {values : List Value} (distinct : values.Nodup)
    (known : key document ∈ values) :
    place (key document) document (values.map (sharing key documents)) =
      values.map (sharing key (documents ++ [document])) := by
  induction values with
  | nil => cases known
  | cons value values ih =>
      obtain ⟨fresh, distinct⟩ := List.nodup_cons.mp distinct
      rw [List.map_cons, List.map_cons, place]
      by_cases here : value = key document
      · have others : values.map (sharing key (documents ++ [document])) =
            values.map (sharing key documents) := by
          apply List.map_congr_left
          intro other member
          apply sharing_concat_of_ne
          intro same
          exact fresh (here ▸ same ▸ member)
        rw [if_pos ((text_sharing_iff _ _).mpr here), others, here, sharing_concat_self]
      · have later : key document ∈ values :=
          (List.mem_cons.mp known).resolve_left (Ne.symm here)
        rw [if_neg fun same => here ((text_sharing_iff _ _).mp same), ih distinct later,
          sharing_concat_of_ne here]

theorem place_of_not_mem {values : List Value} (fresh : key document ∉ documents.map key)
    (absent : key document ∉ values) :
    place (key document) document (values.map (sharing key documents)) =
      (values ++ [key document]).map (sharing key (documents ++ [document])) := by
  induction values with
  | nil =>
      have alone : documents.filter (fun other => key other = key document) = [] := by
        rw [List.filter_eq_nil_iff]
        intro other member same
        exact fresh (List.mem_map.mpr ⟨other, member, of_decide_eq_true same⟩)
      simp [place, sharing, alone]
  | cons value values ih =>
      obtain ⟨here, later⟩ := List.ne_and_not_mem_of_not_mem_cons absent
      rw [List.map_cons, place, if_neg fun same => here ((text_sharing_iff _ _).mp same).symm,
        ih later, List.cons_append, List.map_cons, sharing_concat_of_ne (Ne.symm here)]

/-- Documents are grouped by their keys. -/
theorem ofDocuments_eq_sharing (expr : Expr) (documents : List Document) :
    ofDocuments expr documents =
      (documents.map (keyOf expr)).eraseDups.map (sharing (keyOf expr) documents) := by
  induction documents using List.reverseRecOn with
  | nil => rfl
  | append_singleton documents document ih =>
      have step : ofDocuments expr (documents ++ [document]) =
          place (keyOf expr document) document (ofDocuments expr documents) := by
        rw [ofDocuments, List.foldl_append]
        rfl
      rw [step, ih, List.map_append, List.map_singleton, Occurrence.eraseDups_concat]
      by_cases known : keyOf expr document ∈ documents.map (keyOf expr)
      · rw [if_pos known]
        exact place_of_mem (Occurrence.nodup_eraseDups _) (List.mem_eraseDups.mpr known)
      · rw [if_neg known]
        exact place_of_not_mem known fun member => known (List.mem_eraseDups.mp member)

/-- Documents are in one group if their keys are one value. -/
theorem mem_ofDocuments_iff (expr : Expr) {first second : Document} (inside : first ∈ documents)
    (inside' : second ∈ documents) :
    (∃ group ∈ ofDocuments expr documents, first ∈ group.documents ∧ second ∈ group.documents) ↔
      keyOf expr first = keyOf expr second := by
  rw [ofDocuments_eq_sharing]
  constructor
  · rintro ⟨group, known, member, member'⟩
    obtain ⟨value, _, rfl⟩ := List.mem_map.mp known
    rw [of_decide_eq_true (List.mem_filter.mp member).2,
      of_decide_eq_true (List.mem_filter.mp member').2]
  · intro same
    refine ⟨sharing (keyOf expr) documents (keyOf expr first), List.mem_map_of_mem ?_,
      List.mem_filter.mpr ⟨inside, decide_eq_true rfl⟩,
      List.mem_filter.mpr ⟨inside', decide_eq_true same.symm⟩⟩
    exact List.mem_eraseDups.mpr (List.mem_map_of_mem inside)

/-- Documents whose keys are texts are grouped by these. -/
theorem ofDocuments_eq {expr : Expr}
    (keyed : ∀ document ∈ documents, keyOf expr document = .string (name document)) :
    ofDocuments expr documents =
      (documents.map name).eraseDups.map (named name documents) := by
  have keys : documents.map (keyOf expr) = (documents.map name).map .string := by
    rw [List.map_map]
    exact List.map_congr_left keyed
  rw [ofDocuments_eq_sharing, keys, Occurrence.eraseDups_map fun _ _ => Value.string.inj,
    List.map_map]
  refine List.map_congr_left fun text _ => ?_
  have chosen : documents.filter (fun document => keyOf expr document = .string text) =
      documents.filter fun document => name document = text :=
    List.filter_congr fun document member => by
      simp only [keyed document member, Value.string.injEq]
  rw [Function.comp_apply, sharing, named, chosen]

end DocumentGroup

/-! Counts. -/

namespace RunningSum

theorem add_integer (n m : Int) :
    (whole n).add (.integer m) =
      if Width.isSigned 64 m && Width.isSigned 64 (n + m) then whole (n + m)
      else addDouble (Double.ofInt n) (.integer m) := rfl

theorem isSigned_of_lt {n : Nat} (bound : n < Width.size 63) : Width.isSigned 64 n = true := by
  have below : (n : Int) < (Width.size 63 : Nat) := Int.ofNat_lt.mpr bound
  have above : -((Width.size 63 : Nat) : Int) ≤ n := by omega
  exact Bool.and_eq_true_iff.mpr ⟨decide_eq_true above, decide_eq_true below⟩

theorem addValue_one {n : Nat} (bound : n + 1 < Width.size 63) (document : Document) :
    (whole n).addValue ((Expr.literal (.int 1)).eval document) = whole (n + 1 : Nat) := by
  have one : 1 < Width.size 63 := by omega
  have fits : Width.isSigned 64 (1 : Nat) = true := isSigned_of_lt one
  have fits' : Width.isSigned 64 ((n : Int) + (1 : Nat)) = true := isSigned_of_lt bound
  have sum : (whole n).add (.integer (1 : Nat)) = whole (n + 1 : Nat) := by
    rw [add_integer, fits, fits']
    exact if_pos rfl
  rw [Expr.eval, Value.int, addValue]
  exact sum

end RunningSum

namespace Accumulator

/-- How often one is added depends on the number of documents only. -/
theorem value_sum_ones_congr {documents others : List Document}
    (same : documents.length = others.length) :
    value documents (.sum (.literal (.int 1))) = value others (.sum (.literal (.int 1))) := by
  simp only [value, Expr.eval, List.foldl_const, same]

/-- Documents are counted by ones while their number is a signed one of 64 bits. -/
theorem value_sum_ones {documents : List Document} (bound : documents.length < Width.size 63) :
    value documents (.sum (.literal (.int 1))) = .int documents.length := by
  have counted : documents.foldl (fun total document =>
      total.addValue ((Expr.literal (.int 1)).eval document)) (.whole 0) =
        RunningSum.whole documents.length := by
    induction documents using List.reverseRecOn with
    | nil => rfl
    | append_singleton documents document ih =>
        rw [List.length_append, List.length_singleton] at bound ⊢
        rw [List.foldl_append, ih (Nat.lt_of_succ_lt bound), List.foldl_cons, List.foldl_nil,
          RunningSum.addValue_one bound]
  rw [value, counted, RunningSum.toValue]

end Accumulator

end Engagements
