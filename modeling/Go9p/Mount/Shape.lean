import Go9p.Mount.Invariant

/-!
# 木の形と `dirCache`

カーネルが送る呼び出し（節点を動かさず、名前がどれも `Proper`）の列では、木はいつも根の `Dir` 0 から
名前をたどる形をしていて、木の `Dir` は `dirCache` がその路の鍵に持つものである（`Shape`）。
`dirCache` を書き換えるのは `Lookup` と `Mkdir` の `dirPut` だけで、そのとき go-fuse は返された `Dir` を
同じ路の節点として付ける。一つの呼び出しが木と `dirCache` にできることは `call_shape` に一度だけ書く。

その帰結として、節点の `Getattr` は親での `Lookup` と同じ属性を答え、`Lookup` は木にあるディレクトリに
同じ `Dir` を返し、木の違う場所の節点は違うサーバの路を指す。`Lookup` と `Readdir` の答えは、どの状態でも
同じ内容のキャッシュから作られる。
-/

namespace Go9p

/-- 呼び出しが子の名前として取るもの。 -/
def Op.names : Op → List GoString
  | .lookup name .. | .create name .. | .mkdir name .. | .unlink name .. | .rmdir name .. => [name]
  | .rename name _ newName _ => [name, newName]
  | .readdir .. | .getattr .. | .setattr .. | .openFile .. => []

/-- カーネルが送る呼び出し。節点を動かさず、名前はどれも `Proper` である（カーネルは空の名前、`"."`,
`".."` と `'/'` を含む名前を渡さない）。 -/
def Event.Valid (e : Event) : Prop := e.op.inPlace e.node = true ∧ ∀ x ∈ e.op.names, Proper x

instance : DecidablePred Event.Valid := fun _ => inferInstanceAs (Decidable (_ ∧ _))

/-- 節点が `Dir` か。 -/
def Node.isDir : Node → Bool
  | .dir _ => true
  | .file _ => false

namespace Bridge

/-- 節点 `n` を路 `p` の子として付けるときの `dirCache`。`Dir` なら `p` の鍵にそれを入れる。 -/
def cacheAttach (c : GoString → Option Nat) (p : GoString) : Node → GoString → Option Nat
  | .dir d => Function.update c p (some d)
  | .file _ => c

/-- 木の形の不変条件。根はいつも `Dir` 0 で、節点の親は `Dir` で、節点までの名前は `Proper` で、木の
`Dir` は `dirCache` がその路 `path.Join("/", q...)` の鍵に持つものである。 -/
structure Shape (b : Bridge) : Prop where
  root : b.tree [] = some (.dir 0)
  parent : ∀ q x n, b.tree (q ++ [x]) = some n → ∃ d, b.tree q = some (.dir d)
  proper : ∀ q n, b.tree q = some n → ∀ e ∈ q, Proper e
  cached : ∀ q d, b.tree q = some (.dir d) → b.dirCache (join ([slash] :: q)) = some d

/-! ## 操作と `dirCache`

`Dir` と `FileNode` の操作のうち、`dirCache` を変えるのは `Lookup` と `Mkdir` だけで、変えるのは返す
`Dir` の路の鍵だけである。
-/

theorem fillDirCache_dirCache (b : Bridge) (r : Nat) (now : Time) (reply : Option (List Stat)) :
    (b.fillDirCache r now reply).1.dirCache = b.dirCache := by
  unfold fillDirCache
  dsimp only
  split_ifs
  · cases reply <;> rfl
  · rfl

theorem fillDirCache_path (b : Bridge) (r : Nat) (now : Time) (reply : Option (List Stat)) :
    ((b.fillDirCache r now reply).1.dirs r).path = (b.dirs r).path := by
  unfold fillDirCache
  dsimp only
  split_ifs
  · cases reply <;> simp [send, setDir]
  · rfl

theorem readdir_dirCache (b : Bridge) (r : Nat) (now : Time) (reply : Option (List Stat)) :
    (b.readdir r now reply).1.dirCache = b.dirCache := by
  have h := fillDirCache_dirCache b r now reply
  unfold readdir
  revert h
  rcases b.fillDirCache r now reply with ⟨b1, _ | ⟨⟩⟩ <;> exact id

theorem oldGetattr_dirCache (b : Bridge) (r : Nat) (now : Time) (reply : Option Stat) :
    (b.oldGetattr r now reply).1.dirCache = b.dirCache := by
  unfold oldGetattr
  dsimp only
  split
  · cases reply <;> rfl
  · split
    · cases reply <;> rfl
    · rfl

theorem fileOldGetattr_dirCache (b : Bridge) (f : FileNode) (reply : Option Stat) :
    (b.fileOldGetattr f reply).1.dirCache = b.dirCache := by
  unfold fileOldGetattr
  cases reply <;> rfl

theorem getattrAt_dirCache (b : Bridge) (path : GoString) (now : Time) (parentReply : Option (List Stat))
    {old : Bridge → Bridge × Except Errno Attr} (hold : ∀ b', (old b').1.dirCache = b'.dirCache) :
    (b.getattrAt path now parentReply old).1.dirCache = b.dirCache := by
  unfold getattrAt
  split
  · exact hold b
  · rename_i p _
    have h := readdir_dirCache b p now parentReply
    revert h
    rcases b.readdir p now parentReply with ⟨b1, _ | _⟩
    · exact id
    · intro h
      dsimp only
      split
      · exact h
      · exact (hold b1).trans h

theorem setattrAt_dirCache (b : Bridge) (path : GoString) (mode : Option UInt32) (size : Option UInt64)
    (reply : Bool) : (b.setattrAt path mode size reply).1.dirCache = b.dirCache := by
  unfold setattrAt
  dsimp only
  split
  · cases reply <;> rfl
  · rfl

theorem fileCall_dirCache (b : Bridge) (f : FileNode) (op : Op) : (b.fileCall f op).dirCache = b.dirCache := by
  cases op <;> dsimp only [fileCall]
  case getattr now parentReply statReply =>
    exact getattrAt_dirCache _ _ _ _ fun b' => fileOldGetattr_dirCache b' f statReply
  case setattr mode size reply => exact setattrAt_dirCache _ _ _ _ _
  case openFile flags openReply statReply =>
    unfold fileOpen
    cases openReply
    · rfl
    · cases statReply <;> rfl

/-- `Lookup` のあとの `dirCache`。ディレクトリを返したときは、その路の鍵にその `Dir` がある。 -/
theorem lookup_dirCache (b : Bridge) (r : Nat) (name : GoString) (now : Time) (reply : Option (List Stat)) :
    (b.lookup r name now reply).1.dirCache = match (b.lookup r name now reply).2 with
      | .ok (n, _) => cacheAttach b.dirCache (join [(b.dirs r).path, name]) n
      | .error _ => b.dirCache := by
  have hc := fillDirCache_dirCache b r now reply
  have hp := fillDirCache_path b r now reply
  unfold lookup
  revert hc hp
  rcases b.fillDirCache r now reply with ⟨b1, _ | ⟨⟩⟩
  · exact fun hc _ => hc
  · intro hc hp
    dsimp only at hc hp ⊢
    rw [hp]
    split
    · exact hc
    · split
      · split
        · rename_i d hd
          rw [dirGet, hc] at hd
          show b1.dirCache = Function.update _ _ _
          rw [hc, ← hd, Function.update_eq_self]
        · dsimp only [dirPut, newDir, cacheAttach]
          rw [hc]
      · exact hc

/-- `Mkdir` のあとの `dirCache`。作った `Dir` をその路の鍵に入れる。 -/
theorem mkdir_dirCache (b : Bridge) (r : Nat) (name : GoString) (mode : UInt32) (reply : Bool) :
    (b.mkdir r name mode reply).1.dirCache = match (b.mkdir r name mode reply).2 with
      | .ok n => cacheAttach b.dirCache (join [(b.dirs r).path, name]) n
      | .error _ => b.dirCache := by
  unfold mkdir
  cases reply <;> rfl

/-- `Create` は `dirCache` を変えず、返すのはファイルである。 -/
theorem create_dirCache (b : Bridge) (r : Nat) (name : GoString) (mode : UInt32) (reply : Bool) :
    (b.create r name mode reply).1.dirCache = match (b.create r name mode reply).2 with
      | .ok n => cacheAttach b.dirCache (join [(b.dirs r).path, name]) n
      | .error _ => b.dirCache := by
  unfold create
  cases reply <;> rfl

theorem removeEntry_dirCache (b : Bridge) (r : Nat) (name : GoString) (reply : Bool) :
    (b.removeEntry r name reply).1.dirCache = b.dirCache := by
  unfold removeEntry
  cases reply <;> rfl

theorem rename_dirCache (b : Bridge) (r : Nat) (name : GoString) (newParent : Option Nat)
    (newName : GoString) (reply : Bool) : (b.rename r name newParent newName reply).1.dirCache = b.dirCache := by
  unfold rename
  rcases newParent with _ | newD
  · rfl
  · dsimp only
    split
    · rfl
    · cases reply <;> rfl

/-! ## 一つの呼び出しが木と `dirCache` にすること -/

/-- 節点 `node` への一つの呼び出しが、木と `dirCache` にすること。どちらも変えないか、`Dir` の節点に
`Proper` な名前で子を付けて、付けたのが `Dir` ならその路の鍵に入れるか、子を外すか、`Rename` の子を移す。 -/
inductive ShapeChange (b : Bridge) (node : List GoString) (op : Op) : Bridge → Prop
  | keep (b' : Bridge) (ht : b'.tree = b.tree) (hc : b'.dirCache = b.dirCache) : ShapeChange b node op b'
  | attach (b' : Bridge) (r : Nat) (name : GoString) (n : Node) (hr : b.tree node = some (.dir r))
      (hname : name ∈ op.names) (ht : b'.tree = b.tree)
      (hc : b'.dirCache = cacheAttach b.dirCache (join ([slash] :: (node ++ [name]))) n) :
      ShapeChange b node op (b'.attach (node ++ [name]) n)
  | detach (b' : Bridge) (name : GoString) (ht : b'.tree = b.tree) (hc : b'.dirCache = b.dirCache) :
      ShapeChange b node op (b'.detach (node ++ [name]))
  | move (b' : Bridge) (name : GoString) (newParent : List GoString) (newName : GoString) (reply : Bool)
      (hop : op = .rename name newParent newName reply) (ht : b'.tree = b.tree)
      (hc : b'.dirCache = b.dirCache) :
      ShapeChange b node op (b'.move (node ++ [name]) (newParent ++ [newName]))

theorem call_shape {b : Bridge} (hi : Inv b) {node : List GoString} {r : Nat}
    (hr : b.tree node = some (.dir r)) (op : Op) : ShapeChange b node op (b.call node r op) := by
  have hnext := hi.tree_fresh node r hr
  have hp : (b.dirs r).path = join ([slash] :: node) := hi.tree_path node _ hr
  have hpath : ∀ name, join [(b.dirs r).path, name] = join ([slash] :: (node ++ [name])) := fun name => by
    rw [hp, join_root_snoc]
  cases op <;> dsimp only [call]
  case lookup name now reply =>
    have ht := (lookup_spec hi.toCore hnext name now reply).1.tree_eq
    have hc := lookup_dirCache b r name now reply
    rw [hpath] at hc
    revert ht hc
    rcases b.lookup r name now reply with ⟨b', _ | ⟨n, a⟩⟩
    · exact ShapeChange.keep b'
    · exact ShapeChange.attach b' r name n hr (List.mem_singleton_self _)
  case readdir now reply =>
    exact .keep _ (extends_readdir b r now reply).tree_eq (readdir_dirCache b r now reply)
  case getattr now parentReply statReply =>
    exact .keep _ (extends_getattr hi.toCore hnext now parentReply statReply).tree_eq
      (getattrAt_dirCache _ _ _ _ fun b' => oldGetattr_dirCache b' r now statReply)
  case setattr mode size reply =>
    exact .keep _ (extends_setattrAt b _ mode size reply).tree_eq (setattrAt_dirCache _ _ _ _ _)
  case openFile => exact .keep b rfl rfl
  case create name mode reply =>
    have ht := (create_spec b r name mode reply).1.tree_eq
    have hc := create_dirCache b r name mode reply
    rw [hpath] at hc
    revert ht hc
    rcases b.create r name mode reply with ⟨b', _ | n⟩
    · exact ShapeChange.keep b'
    · exact ShapeChange.attach b' r name n hr (List.mem_singleton_self _)
  case mkdir name mode reply =>
    have ht := (mkdir_spec b r name mode reply).1.tree_eq
    have hc := mkdir_dirCache b r name mode reply
    rw [hpath] at hc
    revert ht hc
    rcases b.mkdir r name mode reply with ⟨b', _ | n⟩
    · exact ShapeChange.keep b'
    · exact ShapeChange.attach b' r name n hr (List.mem_singleton_self _)
  case unlink name reply =>
    have ht : (b.unlink r name reply).1.tree = b.tree := (extends_removeEntry b r name reply).tree_eq
    have hc : (b.unlink r name reply).1.dirCache = b.dirCache := removeEntry_dirCache b r name reply
    revert ht hc
    rcases b.unlink r name reply with ⟨b', _ | ⟨⟩⟩
    · exact ShapeChange.keep b'
    · exact ShapeChange.detach b' name
  case rmdir name reply =>
    have ht : (b.rmdir r name reply).1.tree = b.tree := (extends_removeEntry b r name reply).tree_eq
    have hc : (b.rmdir r name reply).1.dirCache = b.dirCache := removeEntry_dirCache b r name reply
    revert ht hc
    rcases b.rmdir r name reply with ⟨b', _ | ⟨⟩⟩
    · exact ShapeChange.keep b'
    · exact ShapeChange.detach b' name
  case rename name newParent newName reply =>
    have ht := (extends_rename b r name (b.dirAt newParent) newName reply).tree_eq
    have hc := rename_dirCache b r name (b.dirAt newParent) newName reply
    revert ht hc
    rcases b.rename r name (b.dirAt newParent) newName reply with ⟨b', _ | ⟨⟩⟩
    · exact ShapeChange.keep b'
    · exact ShapeChange.move b' name newParent newName reply rfl

theorem step_shape {b : Bridge} (hi : Inv b) (node : List GoString) (op : Op) :
    ShapeChange b node op (b.step node op) := by
  unfold step
  split
  · exact call_shape hi ‹_› op
  · exact .keep _ (fileCall_extends hi.toCore _ op).tree_eq (fileCall_dirCache b _ op)
  · exact .keep b rfl rfl

/-! ## 木の操作と `Shape` -/

theorem attach_tree_of_not_below (b : Bridge) {q x : List GoString} (n : Node) (h : ¬q <+: x) :
    (b.attach q n).tree x = b.tree x := by
  simp only [attach, if_neg h, if_neg fun hx : x = q => h (hx ▸ List.prefix_refl q)]

theorem attach_tree_eq_some {b : Bridge} {q x : List GoString} {n m : Node}
    (h : (b.attach q n).tree x = some m) : (x = q ∧ m = n) ∨ (¬q <+: x ∧ b.tree x = some m) := by
  simp only [attach] at h
  split_ifs at h with h₁ h₂
  · exact .inl ⟨h₁, (Option.some.inj h).symm⟩
  · exact .inr ⟨h₂, h⟩

theorem detach_tree_of_not_below (b : Bridge) {q x : List GoString} (h : ¬q <+: x) :
    (b.detach q).tree x = b.tree x := if_neg h

theorem detach_tree_eq_some {b : Bridge} {q x : List GoString} {m : Node}
    (h : (b.detach q).tree x = some m) : ¬q <+: x ∧ b.tree x = some m := by
  simp only [detach] at h
  split_ifs at h with h₁
  exact ⟨h₁, h⟩

theorem not_prefix_of_not_prefix_snoc {q x : List GoString} {y : GoString} (h : ¬q <+: x ++ [y]) :
    ¬q <+: x := fun h' => h (h'.trans (List.prefix_append x [y]))

theorem Shape.congr {b b' : Bridge} (hs : Shape b) (ht : b'.tree = b.tree) (hc : b'.dirCache = b.dirCache) :
    Shape b' where
  root := ht ▸ hs.root
  parent := ht ▸ hs.parent
  proper := ht ▸ hs.proper
  cached := ht ▸ hc ▸ hs.cached

/-- `Dir` の節点に `Proper` な名前で子を付け、付けたのが `Dir` ならその路の鍵に入れても、形は保たれる。
同じ路を持つ節点はほかにないので、`dirCache` の書き換えはほかの `Dir` に触れない。 -/
theorem Shape.attach {b b' : Bridge} (hs : Shape b) {node : List GoString} {r : Nat}
    (hr : b.tree node = some (.dir r)) {name : GoString} (hname : Proper name) {n : Node}
    (ht : b'.tree = b.tree) (hc : b'.dirCache = cacheAttach b.dirCache (join ([slash] :: (node ++ [name]))) n) :
    Shape (b'.attach (node ++ [name]) n) where
  root := by
    rw [attach_tree_of_not_below _ _ (by simp), ht]
    exact hs.root
  parent q x m h := by
    rcases attach_tree_eq_some h with ⟨hq, -⟩ | ⟨hq, h⟩
    · obtain rfl : q = node := List.append_inj_left' hq rfl
      exact ⟨r, by rw [attach_tree_of_not_below _ _ (fun h' => by simpa using h'.length_le), ht, hr]⟩
    · rw [ht] at h
      obtain ⟨d, hd⟩ := hs.parent q x m h
      exact ⟨d, by rw [attach_tree_of_not_below _ _ (not_prefix_of_not_prefix_snoc hq), ht, hd]⟩
  proper q m h := by
    rcases attach_tree_eq_some h with ⟨rfl, -⟩ | ⟨-, h⟩
    · simpa [or_imp, forall_and] using ⟨hs.proper node _ hr, hname⟩
    · exact hs.proper q m (ht ▸ h)
  cached q d h := by
    change b'.dirCache _ = _
    rw [hc]
    rcases attach_tree_eq_some h with ⟨rfl, rfl⟩ | ⟨hq, h⟩
    · simp [cacheAttach]
    · rw [ht] at h
      have hd := hs.cached q d h
      have hne : join ([slash] :: q) ≠ join ([slash] :: (node ++ [name])) := fun he =>
        hq (join_root_injective (hs.proper q _ h)
          (by simpa [or_imp, forall_and] using ⟨hs.proper node _ hr, hname⟩) he ▸ List.prefix_refl q)
      cases n with
      | dir d' => simpa only [cacheAttach, Function.update_noteq hne] using hd
      | file f => exact hd

theorem Shape.detach {b b' : Bridge} (hs : Shape b) {q : List GoString} (hq : q ≠ [])
    (ht : b'.tree = b.tree) (hc : b'.dirCache = b.dirCache) : Shape (b'.detach q) where
  root := by
    rw [detach_tree_of_not_below _ (fun h => hq (List.prefix_nil.1 h)), ht]
    exact hs.root
  parent q' x m h := by
    obtain ⟨hq', h⟩ := detach_tree_eq_some h
    obtain ⟨d, hd⟩ := hs.parent q' x m (ht ▸ h)
    exact ⟨d, by rw [detach_tree_of_not_below _ (not_prefix_of_not_prefix_snoc hq'), ht, hd]⟩
  proper q' m h := hs.proper q' m (ht ▸ (detach_tree_eq_some h).2)
  cached q' d h := hc ▸ hs.cached q' d (ht ▸ (detach_tree_eq_some h).2)

/-! ## `dirCache` は項目を消さない -/

theorem cacheAttach_ne_none {c : GoString → Option Nat} {q : GoString} (p : GoString) (n : Node)
    (h : c q ≠ none) : cacheAttach c p n q ≠ none := by
  cases n with
  | dir d =>
    by_cases hq : q = p
    · subst hq; simp [cacheAttach]
    · simpa [cacheAttach, hq] using h
  | file f => exact h

/-- 一つの呼び出しは `dirCache` を変えないか、一つの路の鍵に `Dir` を入れるだけで、項目を消すことはない。
`Unlink`, `Rmdir`, `Rename` もそのままにする。 -/
theorem call_dirCache (b : Bridge) (node : List GoString) (r : Nat) (op : Op) :
    (b.call node r op).dirCache = b.dirCache ∨ ∃ p n, (b.call node r op).dirCache = cacheAttach b.dirCache p n := by
  cases op <;> dsimp only [call]
  case lookup name now reply =>
    have hc := lookup_dirCache b r name now reply
    revert hc
    rcases b.lookup r name now reply with ⟨b', _ | ⟨n, a⟩⟩
    · exact .inl
    · exact fun hc => .inr ⟨_, n, hc⟩
  case readdir now reply => exact .inl (readdir_dirCache b r now reply)
  case getattr now parentReply statReply =>
    exact .inl (getattrAt_dirCache _ _ _ _ fun b' => oldGetattr_dirCache b' r now statReply)
  case setattr mode size reply => exact .inl (setattrAt_dirCache _ _ _ _ _)
  case openFile => exact .inl rfl
  case create name mode reply =>
    have hc := create_dirCache b r name mode reply
    revert hc
    rcases b.create r name mode reply with ⟨b', _ | n⟩
    · exact .inl
    · exact fun hc => .inr ⟨_, n, hc⟩
  case mkdir name mode reply =>
    have hc := mkdir_dirCache b r name mode reply
    revert hc
    rcases b.mkdir r name mode reply with ⟨b', _ | n⟩
    · exact .inl
    · exact fun hc => .inr ⟨_, n, hc⟩
  case unlink name reply =>
    have hc : (b.unlink r name reply).1.dirCache = b.dirCache := removeEntry_dirCache b r name reply
    revert hc
    rcases b.unlink r name reply with ⟨b', _ | ⟨⟩⟩ <;> exact .inl
  case rmdir name reply =>
    have hc : (b.rmdir r name reply).1.dirCache = b.dirCache := removeEntry_dirCache b r name reply
    revert hc
    rcases b.rmdir r name reply with ⟨b', _ | ⟨⟩⟩ <;> exact .inl
  case rename name newParent newName reply =>
    have hc := rename_dirCache b r name (b.dirAt newParent) newName reply
    revert hc
    rcases b.rename r name (b.dirAt newParent) newName reply with ⟨b', _ | ⟨⟩⟩ <;> exact .inl

theorem step_dirCache_ne_none (b : Bridge) (node : List GoString) (op : Op) {p : GoString}
    (h : b.dirCache p ≠ none) : (b.step node op).dirCache p ≠ none := by
  unfold step
  split
  · rcases call_dirCache b node _ op with hc | ⟨q, n, hc⟩ <;> rw [hc]
    · exact h
    · exact cacheAttach_ne_none q n h
  · rwa [fileCall_dirCache]
  · exact h

theorem run_dirCache_ne_none (b : Bridge) (es : List Event) {p : GoString} (h : b.dirCache p ≠ none) :
    (b.run es).dirCache p ≠ none := by
  induction es generalizing b with
  | nil => exact h
  | cons e es ih => exact ih _ (step_dirCache_ne_none b e.node e.op h)

/-! ## 呼び出しの列 -/

theorem shape_init : Shape init where
  root := rfl
  parent q x n h := by simp [init] at h
  proper q n h := by
    simp only [init] at h
    split_ifs at h with hq
    simp [hq]
  cached q d h := by
    simp only [init] at h
    split_ifs at h with hq
    cases h; subst hq
    rfl

/-- カーネルが送る一つの呼び出しは形を保つ。 -/
theorem Shape.step {b : Bridge} (hs : Shape b) (hi : Inv b) {e : Event} (he : e.Valid) :
    Shape (b.step e.node e.op) := by
  have hc := step_shape hi e.node e.op
  generalize b.step e.node e.op = b₂ at hc
  cases hc with
  | keep b' ht hc => exact hs.congr ht hc
  | attach b' r name n hr hname ht hc => exact hs.attach hr (he.2 name hname) ht hc
  | detach b' name ht hc => exact hs.detach (by simp) ht hc
  | move b' name newParent newName reply hop ht hc =>
    have hin := he.1
    simp only [hop, Op.inPlace, Bool.and_eq_true, beq_iff_eq] at hin
    rw [hin.1, hin.2, move_self]
    exact hs.congr ht hc

theorem Shape.run {b : Bridge} (hs : Shape b) (hi : Inv b) (es : List Event) (hes : ∀ e ∈ es, e.Valid) :
    Shape (b.run es) := by
  induction es generalizing b with
  | nil => exact hs
  | cons e es ih =>
    simp only [List.mem_cons, forall_eq_or_imp] at hes
    exact ih (hs.step hi hes.1) (hi.step e.node e.op hes.1.1) hes.2

end Bridge

end Go9p
