import AsmGloss.Proofs.Instruction.Lookup
import AsmGloss.Proofs.Text.Casing

/-!
# One view of an instruction set

Entries whose mnemonics have one upper-case form collapse into one: its place is
that of the first, its instruction that of the last.  Finding an instruction,
asking for it, listing the mnemonics and counting them all show that map.  What
is listed is found again because raising a raised mnemonic changes nothing; the
upper-case form may be longer than the mnemonic.
-/

namespace AsmGloss

namespace InstructionSet

/-- The instruction of the last entry whose mnemonic has an upper-case form. -/
def IsLast (entries : List (String × Instruction)) (raised : String)
    (instruction : Instruction) : Prop :=
  ∃ before mnemonic after,
    entries = before ++ (mnemonic, instruction) :: after ∧
    upperCase mnemonic = raised ∧
    ∀ later ∈ after, upperCase later.1 ≠ raised

/-- What a set shows of its entries, in whatever way it is asked. -/
structure Presents (set : InstructionSet)
    (entries : List (String × Instruction)) : Prop where
  found : ∀ mnemonic instruction,
    set.find? mnemonic = some instruction ↔
      IsLast entries (upperCase mnemonic) instruction
  missing : ∀ mnemonic, set.find? mnemonic = none ↔
    ∀ entry ∈ entries, upperCase entry.1 ≠ upperCase mnemonic
  contained : ∀ mnemonic,
    set.contains mnemonic = true ↔ set.find? mnemonic ≠ none
  held : ∀ mnemonic,
    set.contains mnemonic = true ↔ upperCase mnemonic ∈ set.keys
  listed : ∀ raised, raised ∈ set.keys ↔
    raised ∈ entries.map fun entry => upperCase entry.1
  distinct : set.keys.Nodup
  ordered : set.keys.Pairwise fun earlier later =>
    (entries.map fun entry => upperCase entry.1).idxOf earlier <
      (entries.map fun entry => upperCase entry.1).idxOf later
  counted : set.size = set.keys.length
  reached : ∀ raised ∈ set.keys, set.find? raised ≠ none
  caseless : ∀ mnemonic other, upperCase mnemonic = upperCase other →
    set.find? mnemonic = set.find? other

variable {family : String} {entries : List (String × Instruction)}
variable {dialect : Dialect}

theorem find?_ofEntries_eq_some_iff {mnemonic : String}
    {instruction : Instruction} :
    (ofEntries family entries dialect).find? mnemonic = some instruction ↔
      IsLast entries (upperCase mnemonic) instruction := by
  rw [find?_ofEntries, Option.map_eq_some_iff]
  constructor
  · rintro ⟨⟨name, _⟩, found, rfl⟩
    obtain ⟨same, after, before, split, unlike⟩ :=
      List.find?_eq_some_iff_append.mp found
    have whole := congrArg List.reverse split
    rw [List.reverse_reverse, List.reverse_append, List.reverse_cons,
      List.append_assoc, List.singleton_append] at whole
    refine ⟨before.reverse, name, after.reverse, whole, by simpa using same, ?_⟩
    intro later member
    simpa using unlike later (List.mem_reverse.mp member)
  · rintro ⟨before, name, after, rfl, same, unlike⟩
    refine ⟨(name, instruction), ?_, rfl⟩
    refine List.find?_eq_some_iff_append.mpr
      ⟨by simpa using same, after.reverse, before.reverse, by simp, ?_⟩
    intro later member
    simpa using unlike later (List.mem_reverse.mp member)

theorem mem_keys_ofEntries {raised : String} :
    raised ∈ (ofEntries family entries dialect).keys ↔
      raised ∈ entries.map fun entry => upperCase entry.1 := by
  rw [keys, ofEntries, Keyed.mem_keys_ofList, List.map_map]
  rfl

theorem keys_ofEntries_ordered (family : String)
    (entries : List (String × Instruction)) (dialect : Dialect) :
    (ofEntries family entries dialect).keys.Pairwise fun earlier later =>
      (entries.map fun entry => upperCase entry.1).idxOf earlier <
        (entries.map fun entry => upperCase entry.1).idxOf later := by
  have ordered := Keyed.keys_ofList_ordered
    (entries.map fun entry => (upperCase entry.1, entry.2))
  rwa [List.map_map] at ordered

theorem find?_eq_none_iff {set : InstructionSet} {mnemonic : String} :
    set.find? mnemonic = none ↔ upperCase mnemonic ∉ set.keys :=
  Keyed.get?_eq_none_iff

theorem contains_iff {set : InstructionSet} {mnemonic : String} :
    set.contains mnemonic = true ↔ set.find? mnemonic ≠ none := by
  rw [contains, Option.isSome_iff_ne_none]

/-- All views of an instruction set show one map: from the upper-case form of
each mnemonic, in the order in which the forms first came, to the instruction of
the last entry that has it. -/
theorem ofEntries_presents (family : String)
    (entries : List (String × Instruction)) (dialect : Dialect) :
    (ofEntries family entries dialect).Presents entries where
  found _ _ := find?_ofEntries_eq_some_iff
  missing mnemonic := by
    rw [find?_eq_none_iff, mem_keys_ofEntries]
    simp
  contained _ := contains_iff
  held mnemonic := by
    rw [contains_iff, ne_eq, find?_eq_none_iff, not_not]
  listed _ := mem_keys_ofEntries
  distinct := (ofEntries family entries dialect).entries.distinct
  ordered := keys_ofEntries_ordered family entries dialect
  counted := Keyed.size_eq_length_keys _
  reached raised listed := by
    obtain ⟨entry, _, rfl⟩ := List.mem_map.mp (mem_keys_ofEntries.mp listed)
    rw [ne_eq, find?_eq_none_iff, not_not, upperCase_upperCase]
    exact listed
  caseless mnemonic other same := by
    rw [find?, find?, same]

/-- The upper-case form of a ligature has two letters. -/
example (first second third : Instruction) :
    let set :=
      ofEntries "" [("ﬁ", first), ("mov", second), ("Fi", third)] .plain
    set.keys = ["FI", "MOV"] ∧ set.find? "fI" = some third := by
  constructor
  · cbv
  · cbv

end InstructionSet

end AsmGloss
