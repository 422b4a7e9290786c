import NumberingPlan.Files
import NumberingPlan.Proofs.Lookup

/-! What is read at the path of an entry. A path that leads down through directories gives what the
entry holds, so that what was written is read, and what was taken away is missed. -/

namespace NumberingPlan.Files

/-- The path goes from the working directory to an entry, through directories and by names that the
system takes. -/
structure Leads (files : Files) (working path : Path) (parts : List String) : Prop where
  rooted : working.isRooted = true ∧ path.isRooted = true
  below : path.parts = working.parts ++ parts
  plain : ∀ part ∈ parts, part ≠ ".." ∧ part.utf8ByteSize ≤ maxNameLength
  above : ∀ up down, up ++ down = parts → down ≠ [] → files.found? up = some .directory

variable {files : Files} {working path : Path} {parts : List String}

theorem walk_down {here rest : List String}
    (plain : ∀ part ∈ rest, part ≠ ".." ∧ part.utf8ByteSize ≤ maxNameLength)
    (above : ∀ up down, up ++ down = rest → down ≠ [] →
      files.found? (here ++ up) = some .directory) :
    files.walk here rest = contents (files.found? (here ++ rest)) := by
  induction rest generalizing here with
  | nil => rw [walk, List.append_nil]
  | cons part rest ih =>
    have here_directory : files.found? here = some .directory := by
      simpa using above [] (part :: rest) rfl (List.cons_ne_nil _ _)
    obtain ⟨notUp, short⟩ := plain part List.mem_cons_self
    have next : (here ++ [part]) ++ rest = here ++ part :: rest := by simp
    rw [walk, here_directory]
    simp only [Nat.not_lt.2 short, if_false, beq_iff_eq, notUp]
    rw [ih (fun other among => plain other (.tail _ among)), next]
    intro up down same more
    simpa using above (part :: up) down (by rw [List.cons_append, same]) more

theorem Leads.reader_eq (leads : files.Leads working path parts) :
    files.reader working path = contents (files.found? parts) := by
  have beginning : working.parts.isPrefixOf path.parts = true := by
    rw [leads.below, List.isPrefixOf_iff_prefix]
    exact List.prefix_append _ _
  rw [reader, if_pos leads.rooted.2, leads.rooted.1, beginning, leads.below, List.drop_left]
  exact walk_down leads.plain leads.above

theorem found?_write (files : Files) (parts : List String) (entry : FileEntry) :
    (files.write parts entry).found? parts = some entry := by
  rw [found?, write, List.lookup_cons_self]

theorem found?_delete (files : Files) (inside : parts ≠ []) :
    (files.delete parts).found? parts = none := by
  have gone : ∀ kept ∈ files.delete parts, ¬ parts <+: kept.1 := by
    intro kept among inside
    have out : parts.isPrefixOf kept.1 = false := by simpa using (List.mem_filter.1 among).2
    rw [List.isPrefixOf_iff_prefix.2 inside] at out
    cases out
  have absent : (files.delete parts).lookup parts = none := by
    refine lookup_of_notMem fun listed => ?_
    obtain ⟨kept, among, rfl⟩ := List.mem_map.1 listed
    exact gone kept among (List.prefix_refl _)
  have nothing : (files.delete parts).any (fun kept => parts.isPrefixOf kept.1) = false := by
    simpa using fun name entry among => gone (name, entry) among
  rw [found?, absent]
  simp [inside, nothing]

/-- What is written is what is read. -/
theorem Leads.read_written {bytes : List UInt8}
    (leads : (files.write parts (.file bytes)).Leads working path parts) :
    (files.write parts (.file bytes)).reader working path = .ok bytes := by
  rw [leads.reader_eq, found?_write, contents]

theorem Leads.read_deleted (leads : (files.delete parts).Leads working path parts)
    (inside : parts ≠ []) : (files.delete parts).reader working path = .error .missing := by
  rw [leads.reader_eq, found?_delete files inside, contents]

end NumberingPlan.Files
