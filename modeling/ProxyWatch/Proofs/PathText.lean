import Mathlib.Data.List.Induction
import ProxyWatch.Proofs.FileTree

/-! The names in a path, and in the same path with another extension. -/
namespace ProxyWatch

namespace FileTree

variable {t t' : FileTree} {a b cs : List Char} {dir p : Place} {ns : List String} {path : String}

theorem segments_ne_nil : segments cs ≠ [] := by
  cases cs with
  | nil => simp [segments]
  | cons c cs =>
    rw [segments]
    split
    · simp
    · split <;> simp

theorem segments_append_slash : segments (a ++ '/' :: b) = segments a ++ segments b := by
  induction a with
  | nil => simp [segments]
  | cons c a ih =>
    rw [List.cons_append, segments, segments, ih]
    by_cases hc : c = '/'
    · simp [hc]
    · simp only [hc, if_false]
      cases hs : segments a with
      | nil => exact (segments_ne_nil hs).elim
      | cons s rest => rfl

theorem segments_of_no_slash (h : '/' ∉ cs) : segments cs = [cs] := by
  induction cs with
  | nil => rfl
  | cons c cs ih =>
    obtain ⟨hc, hcs⟩ := List.ne_and_not_mem_of_not_mem_cons h
    rw [segments, if_neg (Ne.symm hc), ih hcs]

/-- The names in a text. -/
def nameList (cs : List Char) : List (List Char) := (segments cs).filter (!·.isEmpty)

theorem names_eq : names path = (nameList path.toList).map String.ofList := rfl

theorem nameList_append_slash : nameList (a ++ '/' :: b) = nameList a ++ nameList b := by
  rw [nameList, segments_append_slash, List.filter_append]
  rfl

theorem nameList_of_no_slash (h : '/' ∉ cs) (hn : cs ≠ []) : nameList cs = [cs] := by
  simp [nameList, segments_of_no_slash h, hn]

/-- Whatever stands above the last name, it ends in a slash. -/
theorem nameList_append (ha : a = [] ∨ ∃ a', a = a' ++ ['/']) (h : '/' ∉ b) (hn : b ≠ []) :
    nameList (a ++ b) = nameList a ++ [b] := by
  rcases ha with rfl | ⟨a', rfl⟩
  · rw [List.nil_append, nameList_of_no_slash h hn]
    rfl
  · have hnil : nameList ([] : List Char) = [] := rfl
    rw [List.append_assoc, List.singleton_append, nameList_append_slash, nameList_append_slash, hnil,
      List.append_nil, nameList_of_no_slash h hn]

/-- The names that lead on: a point names the directory itself. -/
def way (path : String) : List String := (names path).filter (· ≠ ".")

/-- A way that doesn't lead upwards ends below its beginning. -/
theorem walk_eq_append (h : ".." ∉ ns) (hw : t.walk dir ns = .ok p) : p = dir ++ ns.filter (· ≠ ".") := by
  fun_induction walk t dir ns with
  | case1 =>
    cases hw
    simp
  | case2 dir rest ih => simpa using ih (by simpa using h) hw
  | case3 => simp at h
  | case4 dir name hdot =>
    cases hw
    rw [List.filter_cons_of_pos (by simpa using hdot), List.filter_nil]
  | case5 dir name rest hdot hdots hone hd ih =>
    rw [ih (List.not_mem_of_not_mem_cons h) hw]
    simp only [List.append_assoc, List.singleton_append]
    rw [List.filter_cons_of_pos (by simpa using hdot)]
  | case6 | case7 => cases hw

/-- Whatever stands in the tree, it stands in a directory. -/
def Sound (t : FileTree) : Prop := ∀ p name n, t.at? (p ++ [name]) = some n → t.at? p = some .dir

theorem Sound.dir_of_prefix (hs : t.Sound) {below : List String} {n : Node} (h : t.at? (p ++ below) = some n)
    (hb : below ≠ []) : t.at? p = some .dir := by
  induction below using List.reverseRecOn generalizing n with
  | nil => exact (hb rfl).elim
  | append_singleton below name ih =>
    rw [← List.append_assoc] at h
    have hd := hs _ _ _ h
    by_cases hne : below = []
    · rwa [hne, List.append_nil] at hd
    · exact ih hd hne

/-- A file that is there can be reached without making directories, if the way never leads upwards. -/
theorem walk_of_file {bytes : ByteArray} (hs : t.Sound) (h : ".." ∉ ns) (hw : t'.walk dir ns = .ok p)
    (ht : t.at? p = some (.file bytes))
    (ht' : t'.at? p = some (.file bytes)) : t.walk dir ns = .ok p := by
  fun_induction walk t' dir ns with
  | case1 | case4 => simpa [walk] using hw
  | case2 dir rest ih =>
    rw [walk]
    exact ih (List.not_mem_of_not_mem_cons h) hw
  | case3 => simp at h
  | case5 dir name rest hdot hdots hone hd ih =>
    have hrest := List.not_mem_of_not_mem_cons h
    have hp := walk_eq_append hrest hw
    have hdir : t.at? (dir ++ [name]) = some .dir := by
      by_cases hn : rest.filter (· ≠ ".") = []
      · rw [hn, List.append_nil] at hp
        rw [hp, hd] at ht'
        cases ht'
      · exact hs.dir_of_prefix (hp ▸ ht) hn
    rw [walk.eq_5 _ _ _ _ hdot hdots hone, hdir]
    exact ih hrest hw
  | case6 | case7 => cases hw

end FileTree

namespace PathText

open FileTree

variable {cs : List Char} {path ext : String}

/-- Behind the last name there are points only. -/
theorem nameList_eq_trimmed (cs : List Char) : ∃ k, nameList cs = nameList (trimmed cs) ++ .replicate k ['.'] := by
  suffices h : ∀ r : List Char, ∃ k, nameList r.reverse = nameList (fromLastName r).reverse ++ .replicate k ['.'] by
    simpa [trimmed] using h cs.reverse
  intro r
  have hnil : nameList ([] : List Char) = [] := rfl
  have hdot : nameList ['.'] = [['.']] := by decide
  fun_induction fromLastName r with
  | case1 r ih =>
    obtain ⟨k, hk⟩ := ih
    exact ⟨k, by rw [List.reverse_cons, nameList_append_slash, hnil, List.append_nil, hk]⟩
  | case2 r ih =>
    obtain ⟨k, hk⟩ := ih
    refine ⟨k + 1, ?_⟩
    rw [List.reverse_cons, List.reverse_cons, List.append_assoc, List.singleton_append, nameList_append_slash, hdot, hk,
      List.append_assoc, List.replicate_succ']
  | case3 => exact ⟨0, by simp⟩

/-- What stands above the last name. -/
def above (cs : List Char) : List Char := (cs.reverse.dropWhile (· != '/')).reverse

def lastName (cs : List Char) : List Char := (cs.reverse.takeWhile (· != '/')).reverse

theorem above_append_lastName (cs : List Char) : above cs ++ lastName cs = cs := by
  rw [above, lastName, ← List.reverse_append, List.takeWhile_append_dropWhile, List.reverse_reverse]

theorem slash_not_mem_lastName : '/' ∉ lastName cs := by
  intro h
  simpa using List.all_eq_true.mp List.all_takeWhile _ (List.mem_reverse.mp h)

theorem above_eq (cs : List Char) : above cs = [] ∨ ∃ a, above cs = a ++ ['/'] := by
  unfold above
  cases h : cs.reverse.dropWhile (· != '/') with
  | nil => exact .inl rfl
  | cons c r =>
    have hc : c = '/' := by
      simpa [h] using List.head?_dropWhile_not (· != '/') cs.reverse
    exact .inr ⟨r.reverse, by simp [hc]⟩

theorem mem_of_mem_stem {name : List Char} {c : Char} (h : c ∈ stem name) : c ∈ name := by
  unfold stem at h
  split at h
  · rename_i before heq
    split at h
    · exact h
    · have := List.dropWhile_subset (· != '.') (l := name.reverse)
        (by rw [heq]; exact List.mem_cons_of_mem _ (List.mem_reverse.mp h))
      exact List.mem_reverse.mp this
  · exact h

theorem stem_ne_nil {name : List Char} (h : name ≠ []) : stem name ≠ [] := by
  unfold stem
  split
  · split
    · exact h
    · rename_i hb
      simpa using hb
  · exact h

/-- The last name with another extension. -/
def renamed (name ext : List Char) : List Char := stem name ++ '.' :: ext

theorem slash_not_mem_renamed {ext : List Char} (h : '/' ∉ ext) : '/' ∉ renamed (lastName cs) ext := by
  simp only [renamed, List.mem_append, List.mem_cons, not_or]
  exact ⟨fun hs => slash_not_mem_lastName (mem_of_mem_stem hs), by decide, h⟩

theorem trimmed_isPrefix (cs : List Char) : trimmed cs <+: cs := by
  suffices h : ∀ r, fromLastName r <:+ r by
    have := List.reverse_prefix.mpr (h cs.reverse)
    rwa [List.reverse_reverse] at this
  intro r
  fun_induction fromLastName r with
  | case1 r ih => exact ih.trans (List.suffix_cons _ r)
  | case2 r ih => exact ih.trans ⟨['.', '/'], rfl⟩
  | case3 => exact List.suffix_rfl

/-- A path and the same path with another extension: one way, and then the last name or the renamed one. -/
structure Twins (path ext : String) (cs : List Char) : Prop where
  start : cs <+: path.toList
  names : ∃ k, nameList path.toList = nameList cs ++ .replicate k ['.']
  last_ne_nil : lastName cs ≠ []
  twin : withExtension path ext = String.ofList (above cs ++ renamed (lastName cs) ext.toList)

theorem withExtension_cases (path ext : String) : withExtension path ext = path ∨ ∃ cs, Twins path ext cs := by
  unfold withExtension
  simp only
  split
  · exact .inl rfl
  · rename_i h
    simp only [Bool.or_eq_true, not_or] at h
    refine .inr ⟨trimmed path.toList, trimmed_isPrefix _, nameList_eq_trimmed _, ?_, ?_⟩
    · simpa [lastName] using h.1.1
    · simp only [withExtension]
      rw [if_neg (by simpa using h)]
      simp [above, lastName, renamed, List.append_assoc]

namespace Twins

variable {t : FileTree}

theorem nameList_eq (h : Twins path ext cs) :
    ∃ k, nameList path.toList = nameList (above cs) ++ [lastName cs] ++ .replicate k ['.'] := by
  obtain ⟨k, hk⟩ := h.names
  have hcs := nameList_append (above_eq cs) slash_not_mem_lastName h.last_ne_nil
  rw [above_append_lastName] at hcs
  exact ⟨k, by rw [hk, hcs]⟩

theorem nameList_twin (h : Twins path ext cs) (he : '/' ∉ ext.toList) :
    nameList (withExtension path ext).toList = nameList (above cs) ++ [renamed (lastName cs) ext.toList] := by
  rw [h.twin, String.toList_ofList, nameList_append (above_eq cs) (slash_not_mem_renamed he)]
  simp [renamed]

end Twins

theorem slash_prefix_iff {a b : List Char} (h : a <+: b) (hn : a ≠ []) : ['/'] <+: b ↔ ['/'] <+: a := by
  obtain ⟨r, rfl⟩ := h
  cases a with
  | nil => exact (hn rfl).elim
  | cons c a => simp

/-- Another extension leads no other way. -/
theorem base_withExtension (t : FileTree) (he : '/' ∉ ext.toList) :
    t.base (withExtension path ext) = t.base path := by
  obtain h | ⟨cs, h⟩ := withExtension_cases path ext
  · rw [h]
  · have hiff : (withExtension path ext).startsWith "/" = true ↔ path.startsWith "/" = true := by
      rw [String.startsWith_string_iff, String.startsWith_string_iff, show "/".toList = ['/'] from rfl, h.twin,
        String.toList_ofList]
      by_cases ha : above cs = []
      · have hcs : lastName cs = cs := by simpa [ha] using above_append_lastName cs
        rw [ha, List.nil_append, slash_prefix_iff h.start (hcs ▸ h.last_ne_nil)]
        have hno : ∀ {l : List Char}, '/' ∉ l → ¬ ['/'] <+: l := fun hl hp => hl (hp.subset (by simp))
        exact iff_of_false (hno (slash_not_mem_renamed he)) (hno (hcs ▸ slash_not_mem_lastName))
      · have hpre : above cs <+: cs := ⟨lastName cs, above_append_lastName cs⟩
        rw [slash_prefix_iff (List.prefix_append ..) ha, slash_prefix_iff (hpre.trans h.start) ha]
    unfold base
    by_cases hp : path.startsWith "/" = true
    · rw [if_pos hp, if_pos (hiff.mpr hp)]
    · rw [if_neg hp, if_neg (mt hiff.mp hp)]

theorem mem_names {cs : List Char} : String.ofList cs ∈ names path ↔ cs ∈ nameList path.toList := by
  rw [names_eq, List.mem_map]
  refine ⟨fun ⟨a, ha, he⟩ => ?_, fun h => ⟨_, h, rfl⟩⟩
  rwa [← String.ofList_injective he]

theorem no_way_up_withExtension (he : '/' ∉ ext.toList) (hn : ext ≠ "") (h : ".." ∉ names path) :
    ".." ∉ names (withExtension path ext) := by
  obtain hp | ⟨cs, hc⟩ := withExtension_cases path ext
  · rwa [hp]
  · intro hm
    have hm : ['.', '.'] ∈ nameList (withExtension path ext).toList := mem_names.mp hm
    rw [hc.nameList_twin he, List.mem_append, List.mem_singleton] at hm
    rcases hm with hm | hm
    · obtain ⟨k, hk⟩ := hc.nameList_eq
      have hp : ['.', '.'] ∈ nameList path.toList := by
        rw [hk]
        simp [hm]
      exact h (mem_names.mpr hp)
    · have hlen := congrArg List.length hm
      have hs := List.length_pos_iff.mpr (stem_ne_nil hc.last_ne_nil)
      have hx : 0 < ext.toList.length := List.length_pos_iff.mpr (by simpa using hn)
      simp only [renamed, List.length_append, List.length_cons, List.length_nil] at hlen
      omega

end PathText
end ProxyWatch
