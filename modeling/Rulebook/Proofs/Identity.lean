import Rulebook.Distinct
import Rulebook.Proofs.Identifier
import Rulebook.Proofs.Normalization

/-!
# Which rule is which

Rules are known by their identifiers alone. Two of them are equal exactly if the same text stands for them in what is
told when they are normalised, be it an event or the details of a problem (`Rule.same_iff_toldIdentifier`). A set that
goes by the hashes of rules keeps the first rule of each identifier, whatever the hash of identifiers is
(`Rule.keptByHash_eq_distinctBy`, `distinctBy_eq_filter`). Whether rules are duplicates, on the other hand, does not depend on their identifiers.
-/

namespace Rulebook

/-! ### The first of each kind -/

/-- A member is kept exactly if all members before it have other keys. -/
theorem distinctBy_eq_filter {α κ : Type} [DecidableEq κ] (key : α → κ) (xs : List α) :
    distinctBy key xs = (xs.zipIdx.filter fun p => (xs.take p.2).all fun y => key y ≠ key p.1).map Prod.fst := by
  induction xs using List.reverseRecOn with
  | nil => rfl
  | append_singleton xs x ih =>
    have same : (xs.zipIdx.filter fun p => ((xs ++ [x]).take p.2).all fun y => key y ≠ key p.1) =
        xs.zipIdx.filter fun p => (xs.take p.2).all fun y => key y ≠ key p.1 := by
      refine List.filter_congr fun p hp => ?_
      rw [List.take_append_of_le_length (Nat.le_of_lt (List.snd_lt_of_mem_zipIdx hp))]
    have last : (((xs ++ [x]).take xs.length).all fun y => key y ≠ key x) = decide (key x ∉ xs.map key) := by
      rw [List.take_left, Bool.eq_iff_iff]
      simp
    rw [distinctBy_concat, List.zipIdx_append, List.filter_append, List.map_append, same, ← ih, List.zipIdx_singleton,
      Nat.zero_add, List.filter_cons, last]
    by_cases known : key x ∈ xs.map key
    · simp [known]
    · simp [known]

/-! ### What is told of a rule -/

/-- The detail of a problem under a name. -/
def Problem.detail? (p : Problem) (name : String) : Option Json :=
  match p.details with
  | .obj members => members.lookup name
  | _ => none

/-- What stands for a rule where it is told that the rule was normalised: in the details of the problem if that
failed, and in the event that was noted last if it did not. -/
def Normalized.toldIdentifier (n : Normalized) : Option Json :=
  match n.error with
  | some e => e.problem.detail? "rule_id"
  | none => n.events.getLast?.bind fun e => e.fields.lookup "rule_id"

namespace Rule

variable {a b : Rule} {refuses refuses' : Policy} {c c' : Cache}

theorem toldIdentifier_normalize (r : Rule) (refuses : Policy) (c : Cache) :
    (r.normalize refuses c).toldIdentifier = some (.str (Uuid.textOf r.identifier)) := by
  cases refused : (Pass.run refuses r.slots c).refused with
  | none =>
    simp only [normalize, refused, Normalized.toldIdentifier, List.getLast?_concat, Option.bind_some]
    rfl
  | some d =>
    simp only [normalize, refused, Normalized.toldIdentifier]
    rfl

theorem same_iff_toldIdentifier :
    a.same b = true ↔ (a.normalize refuses c).toldIdentifier = (b.normalize refuses' c').toldIdentifier := by
  rw [same_iff, toldIdentifier_normalize, toldIdentifier_normalize, Option.some_inj, Json.str.injEq, Uuid.textOf_inj]

/-! ### Sets of rules -/

section

variable {α : Type}

/-- Add a member to a set that goes by the hashes of rules, unless a member whose rule has the same hash and is equal is
there. -/
def addByHash (ofIdentifier : Option Uuid → Nat) (rule : α → Rule) (kept : List α) (x : α) : List α :=
  if kept.any fun k => (rule k).hash ofIdentifier == (rule x).hash ofIdentifier && (rule x).same (rule k) then kept
  else kept ++ [x]

/-- What a set holds that goes by the hashes of rules, after members were added in turn. -/
def keptByHash (ofIdentifier : Option Uuid → Nat) (rule : α → Rule) (members : List α) : List α :=
  members.foldl (addByHash ofIdentifier rule) []

theorem keptByHash_eq_distinctBy (ofIdentifier : Option Uuid → Nat) (rule : α → Rule) (members : List α) :
    keptByHash ofIdentifier rule members = distinctBy (fun x => (rule x).identifier) members := by
  induction members using List.reverseRecOn with
  | nil => rfl
  | append_singleton members x ih =>
    have there : ((distinctBy (fun x => (rule x).identifier) members).any fun k =>
        (rule k).hash ofIdentifier == (rule x).hash ofIdentifier && (rule x).same (rule k)) = true ↔
          (rule x).identifier ∈ members.map fun x => (rule x).identifier := by
      rw [← mem_map_distinctBy, List.any_eq_true, List.mem_map]
      refine exists_congr fun k => and_congr_right fun _ => ?_
      rw [Bool.and_eq_true, beq_iff_eq]
      constructor
      · rintro ⟨-, equal⟩
        exact (same_iff.1 equal).symm
      · intro identifiers
        have equal : (rule x).same (rule k) = true := same_iff.2 identifiers.symm
        exact ⟨(hash_eq_of_same equal ofIdentifier).symm, equal⟩
    rw [keptByHash, List.foldl_concat, ← keptByHash, ih, distinctBy_concat, addByHash]
    by_cases known : (rule x).identifier ∈ members.map fun x => (rule x).identifier
    · rw [if_pos known, if_pos (there.2 known)]
    · rw [if_neg known, if_neg (mt there.1 known)]

end

/-- A rule after it was normalised through some caches in turn, wholly or in part. -/
def normalizeThrough (r : Rule) (passes : List (Policy × Cache)) : Rule :=
  passes.foldl (fun r p => (r.normalize p.1 p.2).rule) r

theorem identifier_normalizeThrough (r : Rule) (passes : List (Policy × Cache)) :
    (r.normalizeThrough passes).identifier = r.identifier := by
  induction passes generalizing r with
  | nil => rfl
  | cons p passes ih =>
    have first : (r.normalize p.1 p.2).rule.identifier = r.identifier := by rw [rule_normalize]
    exact (ih _).trans first

/-- Two rules are equal exactly if their identifiers are, and this is told by the text that stands for them where it is
told that they were normalised, whatever else differs between them and however that went. The text is `None` for an
identifier that is missing, and else the canonical form of the identifier. Duplicates do not depend on identifiers. Of
any rules, normalised or not, a set that goes by a hash of identifiers keeps those whose identifier none before them
has, in their order. -/
theorem identity_spec (a b : Rule) (refuses refuses' : Policy) (c c' : Cache) :
    (a.same b = true ↔ a.identifier = b.identifier) ∧
      (a.same b = true ↔ (a.normalize refuses c).toldIdentifier = (b.normalize refuses' c').toldIdentifier) ∧
      (∃ text, (a.normalize refuses c).toldIdentifier = some (.str text) ∧
        (a.identifier = none ∧ text = "None" ∨ ∃ u, a.identifier = some u ∧ u.IsCanonical text.toList)) ∧
      (∀ i j, { a with identifier := i }.duplication (some { b with identifier := j }) = a.duplication (some b)) ∧
      ∀ (hash : Option Uuid → Nat) (members : List (Rule × List (Policy × Cache))),
        let kept := keptByHash hash (fun m => m.1.normalizeThrough m.2) members
        kept = distinctBy (fun m => (m.1.normalizeThrough m.2).identifier) members ∧
          kept = (members.zipIdx.filter fun p =>
            (members.take p.2).all fun m => m.1.identifier ≠ p.1.1.identifier).map Prod.fst := by
  refine ⟨same_iff, same_iff_toldIdentifier, ⟨_, toldIdentifier_normalize a refuses c, ?_⟩, fun _ _ => rfl,
    fun hash members => ?_⟩
  · cases a.identifier with
    | none => exact Or.inl ⟨rfl, rfl⟩
    | some u =>
      refine Or.inr ⟨u, rfl, ?_⟩
      rw [Uuid.toList_textOf]
      exact u.isCanonical_chars
  · intro kept
    have first : kept = distinctBy (fun m => (m.1.normalizeThrough m.2).identifier) members :=
      keptByHash_eq_distinctBy hash _ members
    refine ⟨first, first.trans ?_⟩
    simp only [identifier_normalizeThrough]
    exact distinctBy_eq_filter (fun m => m.1.identifier) members

end Rule

end Rulebook
