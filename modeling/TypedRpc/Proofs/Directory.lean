import TypedRpc.Directory
import TypedRpc.Proofs.KeyedList
import TypedRpc.Proofs.Outcome

/-!
# Files that are written

A file that is written is read back, and nothing else is changed (`write_eq_ok_iff`, `read_write`).
-/

namespace TypedRpc.Directory

variable {directory written : Directory} {names other here there : Names} {text name content : String}

/-- The directory with a file set. -/
def put (directory : Directory) (names : Names) (content : String) : Directory :=
  { directory with files := setFile names content directory.files }

/-- A path leads to a file, which may still have to be written. -/
def Leads (directory : Directory) (text : String) (names : Names) : Prop :=
  ∃ path before last here, Path.parse text = .ok path ∧ path.splitLast? = some (before, last) ∧
    directory.follow path.start before = .ok here ∧ path.closed = false ∧ directory.fileAt here last = .ok names

/-! ## Setting a file -/

theorem lookup_setFile (names other : Names) (content : String) (files : List (Names × String)) :
    (setFile names content files).lookup other = if other = names then some content else files.lookup other := by
  induction files with
  | nil => exact lookup_cons_ite (names, content) [] other
  | cons file files ih =>
    obtain ⟨first, old⟩ := file
    by_cases hfirst : first = names
    · rw [setFile, if_pos hfirst, hfirst, lookup_cons_ite, lookup_cons_ite]
      split <;> rfl
    · rw [setFile, if_neg hfirst, lookup_cons_ite, lookup_cons_ite, ih]
      by_cases h : other = first <;> simp [h, hfirst]

theorem any_setFile (p : Names → Bool) (names : Names) (content : String) (files : List (Names × String)) :
    ((setFile names content files).any fun file => p file.1) = ((files.any fun file => p file.1) || p names) := by
  induction files with
  | nil => simp [setFile]
  | cons file files ih =>
    obtain ⟨first, old⟩ := file
    by_cases h : first = names
    · rw [setFile, if_pos h, h, List.any_cons, List.any_cons, Bool.or_right_comm, Bool.or_self]
    · rw [setFile, if_neg h, List.any_cons, List.any_cons, ih, Bool.or_assoc]

theorem content?_put (directory : Directory) (names other : Names) (content : String) :
    (directory.put names content).content? other = if other = names then some content else directory.content? other :=
  lookup_setFile names other content directory.files

/-- The names before those of a file become those of directories. -/
theorem isDirectory_put (directory : Directory) (names other : Names) (content : String) :
    (directory.put names content).isDirectory other =
      (directory.isDirectory other || (other.isPrefixOf names && other != names)) := by
  simp only [isDirectory, put, any_setFile fun file => other.isPrefixOf file && other != file]
  exact (Bool.or_assoc ..).symm

theorem isDirectory_put_self : (directory.put names content).isDirectory names = directory.isDirectory names := by
  simp [isDirectory_put]

/-! ## Paths after a file is set -/

theorem enter_put (h : directory.enter here name = .ok there) :
    (directory.put names content).enter here name = .ok there := by
  unfold enter at h ⊢
  dsimp only at h ⊢
  by_cases hdots : Path.isDots name = true
  · rwa [if_pos hdots] at h ⊢
  rw [if_neg hdots] at h ⊢
  by_cases hlong : Path.maxNameSize < name.utf8ByteSize
  · simp [hlong] at h
  rw [if_neg hlong] at h ⊢
  by_cases hdirectory : directory.isDirectory (Path.step here name) = true
  · rw [if_pos hdirectory] at h
    rwa [if_pos (by rw [isDirectory_put, hdirectory, Bool.true_or])]
  · rw [if_neg hdirectory] at h
    split at h <;> cases h

theorem follow_put {steps : List String} (h : directory.follow here steps = .ok there) :
    (directory.put names content).follow here steps = .ok there := by
  induction steps generalizing here with
  | nil => exact h
  | cons step rest ih =>
    rw [follow, List.foldlM_cons, Except.bind_eq_ok_iff] at h ⊢
    obtain ⟨next, henter, hrest⟩ := h
    exact ⟨next, enter_put henter, ih hrest⟩

theorem fileAt_eq_ok_iff :
    directory.fileAt here name = .ok names ↔ Path.isDots name = false ∧ ¬ Path.maxNameSize < name.utf8ByteSize ∧
      directory.isDirectory (here ++ [name]) = false ∧ names = here ++ [name] := by
  rw [fileAt]
  by_cases hdots : Path.isDots name = true
  · simp [hdots]
  by_cases hlong : Path.maxNameSize < name.utf8ByteSize
  · simp [hdots, hlong]
  by_cases hdirectory : directory.isDirectory (here ++ [name]) = true
  · simp [hdirectory, hdots, hlong]
  · simp [hdirectory, hdots, hlong, eq_comm]

/-- The path of a file that is set still leads to it. -/
theorem Leads.put (h : directory.Leads text names) : (directory.put names content).Leads text names := by
  obtain ⟨path, before, last, here, hparse, hlast, hfollow, hopen, hfile⟩ := h
  refine ⟨path, before, last, here, hparse, hlast, follow_put hfollow, hopen, ?_⟩
  obtain ⟨hdots, hlong, hdirectory, rfl⟩ := fileAt_eq_ok_iff.mp hfile
  exact fileAt_eq_ok_iff.mpr ⟨hdots, hlong, isDirectory_put_self.trans hdirectory, rfl⟩

/-! ## Writing and reading -/

theorem write_eq_ok_iff :
    directory.write text content = .ok written ↔
      ∃ names, directory.Leads text names ∧ names ≠ fullDevice ∧ written = directory.put names content := by
  simp only [write, Except.bind_eq_ok_iff]
  constructor
  · rintro ⟨path, hparse, h⟩
    split at h
    · cases h
    next before last hlast =>
    simp only [Except.bind_eq_ok_iff, Except.unless_eq_ok_iff, Except.pure_eq_ok_iff] at h
    obtain ⟨here, hfollow, hopen, names, hfile, hdevice, rfl⟩ := h
    exact ⟨names, ⟨path, before, last, here, hparse, hlast, hfollow, by simpa using hopen, hfile⟩, by simpa using hdevice,
      rfl⟩
  · rintro ⟨names, ⟨path, before, last, here, hparse, hlast, hfollow, hopen, hfile⟩, hdevice, rfl⟩
    refine ⟨path, hparse, ?_⟩
    simp only [hlast, Except.bind_eq_ok_iff, Except.unless_eq_ok_iff, Except.pure_eq_ok_iff]
    exact ⟨here, hfollow, by simp [hopen], names, hfile, by simpa using hdevice, rfl⟩

theorem read_of_leads (h : directory.Leads text names) (hcontent : directory.content? names = some content) :
    directory.read text = .ok content := by
  obtain ⟨path, before, last, here, hparse, hlast, hfollow, hopen, hfile⟩ := h
  simp [read, hparse, hlast, hfollow, hfile, hcontent, hopen, bind, Except.bind, pure, Except.pure]

/-- A file that is written is read back. -/
theorem read_write (h : directory.write text content = .ok written) : written.read text = .ok content := by
  obtain ⟨names, hleads, -, rfl⟩ := write_eq_ok_iff.mp h
  exact read_of_leads hleads.put (by rw [content?_put, if_pos rfl])

end TypedRpc.Directory
