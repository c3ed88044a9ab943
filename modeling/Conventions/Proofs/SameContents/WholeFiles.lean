import Conventions.Proofs.Content.FullSimilarity
import Conventions.Proofs.SameContents.Comparison
import Conventions.Proofs.Workspace.Writing

/-!
# Files that are compared as a whole

A file that is compared as a whole has one finding, which tells whether its score is high enough.
If the score has to be full, as it has to by default, the text may be no other than that of the
reference, but for a distance that is too slight for two decimals.
-/

namespace Conventions.SameContents

open Similarity

variable {workspace : Workspace} {reference module : RepoModule} {entry : FileEntry}
  {referenceText text : String}

/-- A file that is compared as a whole with that of another module has one finding, which is valid
exactly if the score of the two texts is not below the minimum. -/
theorem exists_compareFile_whole (round : Rounding) (hwhole : entry.selectors = [])
    (hother : reference.path.same module.path = false)
    (hreference : workspace.read (reference.file entry.name) = .ok referenceText)
    (htext : workspace.read (module.file entry.name) = .ok text) :
    ∃ finding, compareFile round workspace reference module entry = [finding] ∧
      (finding.valid = true ↔ entry.minimum ≤ ofTexts round referenceText text) := by
  have hscore : workspace.fileSimilarity round (reference.file entry.name)
      (module.file entry.name) = .ok (ofTexts round referenceText text) := by
    simp only [Workspace.fileSimilarity, Workspace.readText, hreference, htext]
    rfl
  refine ⟨judge reference entry (module.file entry.name).text (ofTexts round referenceText text),
    ?_, ?_⟩
  · simp [compareFile, Workspace.isFile_of_read hreference, Workspace.isFile_of_read htext, hwhole,
      compareWhole, hother, hscore]
  · unfold judge
    dsimp only
    split
    · next hreached => exact ⟨fun _ => hreached, fun _ => rfl⟩
    · next hmissed => exact ⟨fun hvalid => Bool.noConfusion hvalid, fun h => absurd h hmissed⟩

/-- A file that is compared as a whole, and of which all has to survive, is valid exactly if its
text is that of the reference or its distance is too slight to count. Up to a length of `10 ^ 11`
the distance is too slight if it is not more than the 20000th part of the length of the reference,
so that a reference with fewer characters than that allows no other text. -/
theorem compareFile_full_iff (hwhole : entry.selectors = []) (hminimum : entry.minimum = 100)
    (hother : reference.path.same module.path = false)
    (hreference : workspace.read (reference.file entry.name) = .ok referenceText)
    (htext : workspace.read (module.file entry.name) = .ok text) :
    ∃ finding, compareFile doubles workspace reference module entry = [finding] ∧
      (finding.valid = true ↔ referenceText = text ∨
        IsSlight referenceText.length (levenshtein referenceText text)) ∧
      (referenceText.length < 10 ^ 11 →
        (finding.valid = true ↔ 20000 * levenshtein referenceText text ≤ referenceText.length)) ∧
      (referenceText.length < 20000 → (finding.valid = true ↔ referenceText = text)) := by
  obtain ⟨finding, hfinding, hvalid⟩ :=
    exists_compareFile_whole doubles hwhole hother hreference htext
  rw [hminimum, hundred_le_ofTexts_iff] at hvalid
  refine ⟨finding, hfinding, hvalid, ?_, ?_⟩
  · intro hlength
    rw [hvalid, eq_or_isSlight_iff hlength]
  · intro hlength
    have hbound : referenceText.length < 10 ^ 11 := by omega
    rw [hvalid, eq_or_isSlight_iff hbound, ← levenshtein_eq_zero_iff]
    omega

/-! ### Two licenses -/

/-- Two modules with a license each. -/
def twoLicenses (first second : String) : Workspace where
  root := .folder [
    ("a", .folder [("LICENSE", .file (.text first))]),
    ("b", .folder [("LICENSE", .file (.text second))])]
  current := []

/-- Licenses are compared as a whole, and all of them has to survive. -/
def licenseFile : FileEntry := ⟨"LICENSE", true, Binary64.ofInt 100, []⟩

/-- The license of the first module. -/
theorem read_firstLicense (first second : String) :
    (twoLicenses first second).read ((bareModule "a").file licenseFile.name) = .ok first := rfl

/-- The license of the second module. -/
theorem read_secondLicense (first second : String) :
    (twoLicenses first second).read ((bareModule "b").file licenseFile.name) = .ok second := rfl

/-- Another character in a short license is a problem. -/
theorem invalid_shortLicenses :
    licenseFile.selectors = [] ∧ licenseFile.minimum = 100 ∧
      ∃ finding, compareFile doubles (twoLicenses "MIT" "MIX") (bareModule "a") (bareModule "b")
        licenseFile = [finding] ∧ finding.valid = false := by
  have hwhole : licenseFile.selectors = [] := rfl
  have hminimum : licenseFile.minimum = 100 := by decide +kernel
  refine ⟨hwhole, hminimum, ?_⟩
  obtain ⟨finding, hfinding, -, -, hshort⟩ := compareFile_full_iff hwhole hminimum rfl
    (read_firstLicense "MIT" "MIX") (read_secondLicense "MIT" "MIX")
  refine ⟨finding, hfinding, ?_⟩
  have hinvalid := (hshort (by decide)).not.mpr (by decide)
  simpa using hinvalid

/-- A text without its first character is one deletion away. -/
theorem levenshtein_tail_le (c : Char) (rest : List Char) :
    levenshtein (String.ofList (c :: rest)) (String.ofList rest) ≤ 1 := by
  rw [levenshtein, String.toList_ofList, String.toList_ofList]
  exact (isLeast_distance _ _).2 (.more (.delete [] rest c) (.none rest))

/-- Of a text of 20000 characters or more, all survives without the first one. -/
theorem full_tail (c : Char) {rest : List Char} (hlow : 19999 ≤ rest.length)
    (hhigh : rest.length + 1 < 10 ^ 11) :
    100 ≤ ofTexts doubles (String.ofList (c :: rest)) (String.ofList rest) := by
  have hlength : (String.ofList (c :: rest)).length = rest.length + 1 := by
    rw [String.length_ofList, List.length_cons]
  have hdistance := levenshtein_tail_le c rest
  rw [hundred_le_ofTexts_iff, eq_or_isSlight_iff (by omega)]
  omega

/-- A license of 20000 characters may lack one of them. -/
theorem full_not_equal_longLicenses :
    ¬ ∀ (workspace : Workspace) (reference module : RepoModule) (entry : FileEntry) (a b : String),
      entry.selectors = [] → entry.minimum = 100 → reference.path.same module.path = false →
      workspace.read (reference.file entry.name) = .ok a →
      workspace.read (module.file entry.name) = .ok b →
      (∀ finding ∈ compareFile doubles workspace reference module entry, finding.valid = true) →
      a = b := by
  intro h
  obtain ⟨rest, hrest⟩ : ∃ rest : List Char, rest.length = 19999 :=
    ⟨List.replicate 19999 'x', List.length_replicate⟩
  have hminimum : licenseFile.minimum = 100 := by decide +kernel
  have hwhole : licenseFile.selectors = [] := rfl
  have hfirst := read_firstLicense (String.ofList ('x' :: rest)) (String.ofList rest)
  have hsecond := read_secondLicense (String.ofList ('x' :: rest)) (String.ofList rest)
  obtain ⟨finding, hfinding, hvalid⟩ :=
    exists_compareFile_whole doubles hwhole rfl hfirst hsecond
  have hequal : String.ofList ('x' :: rest) = String.ofList rest := by
    refine h _ _ _ _ _ _ hwhole hminimum rfl hfirst hsecond ?_
    rw [hfinding, List.forall_mem_singleton, hvalid, hminimum]
    exact full_tail 'x' (by omega) (by omega)
  have hlength := congrArg List.length (String.ofList_injective hequal)
  rw [List.length_cons] at hlength
  omega

end Conventions.SameContents
