import Go9p.Proto.Types
import Mathlib.Data.List.Basic

/-!
# 木の節点と `FullPath`

`src/` の `fs` パッケージの `FSNode` と `BaseFile`、`FullPath`。節点は参照で指し、親への参照は
所有しない（仕様書 9 節）。`FullPath` は親をたどる再帰で、親の連鎖が輪になっていれば止まらないので、
呼び出しの深さ `fuel` を引数に取る。
-/

namespace Go9p

/-- 節点の参照。 -/
abbrev Ptr := Nat

/-- `FSNode` の状態。`Stat()` の値と、`Parent()` が返す親（根では `nil`）。 -/
structure NodeState where
  stat : Stat
  parent : Option Ptr
deriving DecidableEq, Repr

/-- 全ての節点の状態。 -/
abbrev Heap := Ptr → NodeState

/-! ## `BaseFile` -/

/-- `NewBaseFile`。親はまだない。 -/
def newBaseFile (s : Stat) : NodeState := ⟨s, none⟩

/-- `BaseFile.WriteStat`。 -/
def Heap.writeStat (h : Heap) (f : Ptr) (s : Stat) : Heap :=
  Function.update h f { h f with stat := s }

/-- `BaseFile.SetParent`。 -/
def Heap.setParent (h : Heap) (f : Ptr) (p : Option Ptr) : Heap :=
  Function.update h f { h f with parent := p }

/-! ## `strings.Replace` -/

/-- `strings.Replace(s, old, new, -1)` を 2 バイトの `old = [a, b]` について。左から探し、重ならない
出現を全て置き換える。置き換えた後の文字列は探し直さない。 -/
def replaceAll (a b : UInt8) (new : GoString) : GoString → GoString
  | x :: y :: s => if x = a ∧ y = b then new ++ replaceAll a b new s else x :: replaceAll a b new (y :: s)
  | s => s

/-! ## `FullPath` -/

/-- `FullPath`。根の名前から始め、親の路に `"/"` と名前を足し、`"//"` を `"/"` に置き換える。
`fuel` が尽きたときは `none`（止まらない）。`nil` の節点には空の文字列を返す。 -/
def fullPath (h : Heap) : Nat → Option Ptr → Option GoString
  | _, none => some []
  | 0, some _ => none
  | fuel + 1, some f =>
    match (h f).parent with
    | none => some (h f).stat.name
    | some p => (fullPath h fuel (some p)).map fun fp =>
        replaceAll slash slash [slash] (fp ++ [slash] ++ (h f).stat.name)

/-! ## 親の連鎖 -/

/-- `p :: ns` の各節点の親が、一つ前の節点である。 -/
def IsParentChain (h : Heap) : Ptr → List Ptr → Prop
  | _, [] => True
  | p, n :: ns => (h n).parent = some p ∧ IsParentChain h n ns

/-- 路の一つの要素として使える名前。空でなく、`'/'` を含まない。 -/
def ValidName (s : GoString) : Prop := s ≠ [] ∧ slash ∉ s

instance : DecidablePred ValidName := fun s => inferInstanceAs (Decidable (s ≠ [] ∧ slash ∉ s))

/-! ## `replaceAll` の補題 -/

section Replace

variable {a b : UInt8} {new : GoString}

/-- `a` を含まない文字列は置き換えられない。 -/
theorem replaceAll_of_not_mem {s : GoString} (h : a ∉ s) : replaceAll a b new s = s := by
  induction s using replaceAll.induct a b new with
  | case1 x y s hxy _ => simp [hxy.1] at h
  | case2 x y s hxy ih =>
    rw [replaceAll, if_neg hxy, ih (fun hm => h (List.mem_cons_of_mem _ hm))]
  | case3 s hs =>
    rcases s with _ | ⟨x, _ | ⟨y, s⟩⟩
    · rfl
    · rfl
    · exact (hs x y s rfl).elim

/-- 前半が `a` で終わらなければ、二つの部分をまたぐ出現はなく、置き換えは部分ごとに行える。 -/
theorem replaceAll_append {p : GoString} (q : GoString) (hp : p.getLast? ≠ some a) :
    replaceAll a b new (p ++ q) = replaceAll a b new p ++ replaceAll a b new q := by
  induction p using replaceAll.induct a b new with
  | case1 x y s hxy ih =>
    have hs : s.getLast? ≠ some a := by
      cases s with
      | nil => simp
      | cons c s => simpa [List.getLast?_cons_cons] using hp
    simp only [List.cons_append, replaceAll, if_pos hxy, List.append_eq, ih hs, List.append_assoc]
  | case2 x y s hxy ih =>
    have hs : (y :: s).getLast? ≠ some a := by simpa [List.getLast?_cons_cons] using hp
    rw [List.cons_append, List.cons_append, replaceAll, if_neg hxy, ← List.cons_append, ih hs,
      replaceAll, if_neg hxy, List.cons_append]
  | case3 s hs =>
    rcases s with _ | ⟨x, _ | ⟨y, s⟩⟩
    · rfl
    · have hx : x ≠ a := by simpa using hp
      cases q with
      | nil => rfl
      | cons y q => simp [replaceAll, hx]
    · exact (hs x y s rfl).elim

end Replace

/-! ## 路の形 -/

theorem intercalate_cons_of_ne_nil (sep e : GoString) {names : List GoString} (h : names ≠ []) :
    List.intercalate sep (e :: names) = e ++ (sep ++ List.intercalate sep names) := by
  obtain ⟨e', names', rfl⟩ := List.exists_cons_of_ne_nil h
  simp [List.intercalate, List.intersperse_cons_cons]

theorem intercalate_append_singleton (sep x : GoString) :
    ∀ {names : List GoString}, names ≠ [] →
      List.intercalate sep (names ++ [x]) = List.intercalate sep names ++ (sep ++ x)
  | [y], _ => by simp [List.intercalate]
  | y :: z :: names, _ => by
    have ih := intercalate_append_singleton sep x (List.cons_ne_nil z names)
    simp only [List.intercalate, List.cons_append, List.intersperse_cons_cons, List.flatten_cons,
      List.append_assoc] at ih ⊢
    rw [ih]

/-- `'/'` に続く妥当な名前は置き換えられない。 -/
theorem replaceAll_slash_name {nm : GoString} (hv : ValidName nm) :
    replaceAll slash slash [slash] (slash :: nm) = slash :: nm := by
  obtain ⟨hne, hfree⟩ := hv
  obtain ⟨c, cs, rfl⟩ := List.exists_cons_of_ne_nil hne
  have hc : c ≠ slash := fun h => hfree (h ▸ List.mem_cons_self _ _)
  simp [replaceAll, hc, replaceAll_of_not_mem hfree]

/-- 妥当な名前を `'/'` でつないだ根からの路には `"//"` がなく、`replaceAll` で変わらない。 -/
theorem replaceAll_rooted :
    ∀ {names : List GoString}, (∀ nm ∈ names, ValidName nm) →
      replaceAll slash slash [slash] (slash :: List.intercalate [slash] names) =
        slash :: List.intercalate [slash] names
  | [], _ => rfl
  | [nm], hv => by simpa [List.intercalate] using replaceAll_slash_name (hv nm (List.mem_singleton_self _))
  | nm :: nm' :: names, hv => by
    have hnm := hv nm (List.mem_cons_self _ _)
    have hlast : (slash :: nm).getLast? ≠ some slash := by
      obtain ⟨c, cs, rfl⟩ := List.exists_cons_of_ne_nil hnm.1
      rw [List.getLast?_cons_cons]
      exact fun h => hnm.2 (List.mem_of_getLast?_eq_some h)
    rw [intercalate_cons_of_ne_nil _ _ (List.cons_ne_nil _ _), List.singleton_append, ← List.cons_append,
      replaceAll_append _ hlast, replaceAll_slash_name hnm,
      replaceAll_rooted (fun n hn => hv n (List.mem_cons_of_mem _ hn))]

/-- `FullPath` の一段。妥当な名前の路に `'/'` と妥当な名前をつないで `"//"` を畳むと、名前を一つ足した
路になる。根の `"/"` の後ろでは `"//"` が一つでき、それが畳まれる。 -/
theorem replaceAll_rooted_snoc {names : List GoString} {nm : GoString} (hv : ∀ x ∈ names, ValidName x)
    (hnm : ValidName nm) :
    replaceAll slash slash [slash] (slash :: List.intercalate [slash] names ++ [slash] ++ nm) =
      slash :: List.intercalate [slash] (names ++ [nm]) := by
  by_cases hne : names = []
  · subst hne
    have hc : replaceAll slash slash [slash] (slash :: slash :: nm) = slash :: nm := by
      rw [replaceAll, if_pos ⟨rfl, rfl⟩, replaceAll_of_not_mem hnm.2, List.singleton_append]
    simpa [List.intercalate] using hc
  · have hr := @replaceAll_rooted (names ++ [nm]) (by simpa [or_imp, forall_and] using ⟨hv, hnm⟩)
    rw [intercalate_append_singleton _ _ hne] at hr ⊢
    simpa using hr

/-! ## `FullPath` の値 -/

theorem fullPath_root {h : Heap} {r : Ptr} (hr : (h r).parent = none) (fuel : Nat) :
    fullPath h (fuel + 1) (some r) = some (h r).stat.name := by
  simp [fullPath, hr]

theorem fullPath_child {h : Heap} {n p : Ptr} (hn : (h n).parent = some p) (fuel : Nat) :
    fullPath h (fuel + 1) (some n) = (fullPath h fuel (some p)).map fun fp =>
      replaceAll slash slash [slash] (fp ++ [slash] ++ (h n).stat.name) := by
  simp [fullPath, hn]

theorem isParentChain_append {h : Heap} {n : Ptr} :
    ∀ {p : Ptr} {ns : List Ptr}, IsParentChain h p (ns ++ [n]) ↔
      IsParentChain h p ns ∧ (h n).parent = some ((p :: ns).getLast (List.cons_ne_nil _ _))
  | p, [] => by simp [IsParentChain]
  | p, m :: ns => by
    simp only [List.cons_append, List.append_eq, IsParentChain, isParentChain_append,
      List.getLast_cons_cons, and_assoc]

/-- 根の名前が `"/"` で、ほかの名前が妥当なら、`FullPath` は連鎖の長さより深く呼ばずに止まり、
根から下の名前を `'/'` でつないだ路を返す。 -/
theorem fullPath_of_parentChain (h : Heap) (root : Ptr) (ns : List Ptr)
    (hroot : (h root).parent = none) (hname : (h root).stat.name = [slash])
    (hchain : IsParentChain h root ns) (hvalid : ∀ n ∈ ns, ValidName (h n).stat.name)
    (fuel : Nat) (hfuel : ns.length < fuel) :
    fullPath h fuel (some ((root :: ns).getLast (List.cons_ne_nil _ _))) =
      some (slash :: List.intercalate [slash] (ns.map fun n => (h n).stat.name)) := by
  induction ns using List.reverseRecOn generalizing fuel with
  | nil =>
    obtain ⟨fuel, rfl⟩ : ∃ f, fuel = f + 1 := ⟨fuel - 1, by simp at hfuel; omega⟩
    simp [fullPath_root hroot, hname, List.intercalate]
  | append_singleton ns n ih =>
    obtain ⟨hchain, hn⟩ := isParentChain_append.mp hchain
    obtain ⟨fuel, rfl⟩ : ∃ f, fuel = f + 1 := ⟨fuel - 1, by simp at hfuel; omega⟩
    have hv := hvalid n (by simp)
    have hl : (root :: (ns ++ [n])).getLast (List.cons_ne_nil _ _) = n := by
      simp [List.getLast_append]
    rw [hl, fullPath_child hn, ih hchain (fun m hm => hvalid m (by simp [hm])) fuel
      (by simp at hfuel; omega), Option.map_some', List.map_append, List.map_singleton,
      replaceAll_rooted_snoc (List.forall_mem_map.mpr fun m hm => hvalid m (by simp [hm])) hv]

theorem fullPath_of_parentChain_two_levels :
    fullPath (fun p => if p = 0 then ⟨⟨0, 0, ⟨0, 0, 0⟩, 0, 0, 0, 0, [47], [], [], []⟩, none⟩
        else ⟨⟨0, 0, ⟨0, 0, 1⟩, 0, 0, 0, 0, [97], [], [], []⟩, some 0⟩) 2
        (some ((0 :: [1]).getLast (List.cons_ne_nil _ _))) = some [47, 97] :=
  fullPath_of_parentChain _ 0 [1] rfl rfl ⟨rfl, trivial⟩ (by decide) 2 (by decide)

/-! ## `FullPath` が読む節点

`FullPath` は節点から親をたどる連鎖の状態しか読まない。`WriteStat` と `SetParent` はその節点の状態だけを
書き換えるので、連鎖がその節点を通らない節点の路は変わらない。
-/

/-- `fuel` 回までの親の連鎖が、節点 `f` を通らない。 -/
def avoids (h : Heap) (f : Ptr) : Nat → Option Ptr → Bool
  | fuel + 1, some n => n != f && avoids h f fuel (h n).parent
  | _, _ => true

/-- `f` のほかの節点の状態が同じ置き場では、連鎖が `f` を通らない節点の `FullPath` は同じである。 -/
theorem fullPath_congr {h h' : Heap} {f : Ptr} (hf : ∀ n, n ≠ f → h' n = h n) :
    ∀ (fuel : Nat) (n : Option Ptr), avoids h f fuel n = true → fullPath h' fuel n = fullPath h fuel n
  | fuel, none, _ => by cases fuel <;> rfl
  | 0, some _, _ => rfl
  | fuel + 1, some n, ha => by
    simp only [avoids, Bool.and_eq_true, bne_iff_ne] at ha
    simp only [fullPath, hf n ha.1]
    cases hp : (h n).parent with
    | none => rfl
    | some p =>
      rw [hp] at ha
      simp only [fullPath_congr hf fuel (some p) ha.2]

/-- `WriteStat` と `SetParent` は、親の連鎖が書き換える節点を通らない節点の `FullPath` を変えない。 -/
theorem fullPath_frame (h : Heap) (f : Ptr) (s : Stat) (p : Option Ptr) (fuel : Nat) (n : Option Ptr)
    (ha : avoids h f fuel n = true) :
    fullPath (h.writeStat f s) fuel n = fullPath h fuel n ∧ fullPath (h.setParent f p) fuel n = fullPath h fuel n :=
  ⟨fullPath_congr (fun _ hm => Function.update_noteq hm _ _) fuel n ha,
    fullPath_congr (fun _ hm => Function.update_noteq hm _ _) fuel n ha⟩

/-- 根 0 の子 1 の路は、別の子 2 の名前を書き換えても、親を付け替えても変わらない。 -/
theorem fullPath_frame_sibling :
    let h : Heap := fun p => if p = 0 then ⟨⟨0, 0, ⟨0, 0, 0⟩, 0, 0, 0, 0, [47], [], [], []⟩, none⟩
      else ⟨⟨0, 0, ⟨0, 0, p.toUInt64⟩, 0, 0, 0, 0, [96 + p.toUInt8], [], [], []⟩, some 0⟩
    avoids h 2 2 (some 1) = true ∧
      (fullPath (h.writeStat 2 ⟨0, 0, ⟨0, 0, 2⟩, 0, 0, 0, 0, [122], [], [], []⟩) 2 (some 1) = fullPath h 2 (some 1) ∧
        fullPath (h.setParent 2 (some 1)) 2 (some 1) = fullPath h 2 (some 1)) :=
  ⟨by decide, fullPath_frame _ 2 _ (some 1) 2 (some 1) (by decide)⟩

end Go9p
