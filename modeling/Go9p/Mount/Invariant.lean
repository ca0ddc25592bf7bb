import Go9p.Mount.Bridge

/-!
# 橋渡しの路の不変条件

木の節点の `path` が、根からその節点までの名前の `path.Join` に等しいこと（`Inv.tree_path`）。
`Dir` と `FileNode` の操作は木を変えず、置いた `Dir` の路も変えない（`Extends`）。木を変えるのは go-fuse で、
`Lookup`, `Create`, `Mkdir` が付ける節点の路は親の路に名前を `Join` したものなので、不変条件は保たれる。
`Rename` だけは節点を別の名前の下へ移し、路を変えない。それでも `dirCache` の鍵と `Dir` の路が合い、
参照が置き場の中にあること（`Core`）は、どの呼び出しの列でも保たれる。

`Extends` は、操作がサーバへ送った呼び出しの路も記録する。一つの呼び出しにできることは `call_cases` に
一度だけ書き、不変条件と送る呼び出しの路はどちらもそこから導く。
-/

namespace Go9p

/-- 呼び出しが名指すサーバの路。 -/
def ClientCall.path : ClientCall → GoString
  | .readdir p | .stat p | .openFile p _ | .create p _ | .remove p | .wstat p _ => p

/-- 路 `p` の節点への呼び出しが名指すサーバの路。`Lookup`, `Readdir`, `Setattr`, `Open` はその節点、
`Getattr` はその節点とその親の路、名前を取る呼び出しは `path.Join(p, name)`。 -/
def Op.targets (p : GoString) : Op → List GoString
  | .lookup .. | .readdir .. | .setattr .. | .openFile .. => [p]
  | .getattr .. => [p, pathDir p]
  | .create name .. | .mkdir name .. | .unlink name .. | .rmdir name .. | .rename name .. => [join [p, name]]

/-- 節点を動かさない呼び出し。`Rename` なら、移す先が元の親と名前である。 -/
def Op.inPlace (node : List GoString) : Op → Bool
  | .rename name newParent newName _ => newParent == node && newName == name
  | _ => true

namespace Bridge

/-- どの呼び出しの列でも保たれる性質。`dirCache` の鍵と `Dir` の路が合い、木と `dirCache` の参照は
置き場の中にある。 -/
structure Core (b : Bridge) : Prop where
  cache_path : ∀ p d, b.dirCache p = some d → (b.dirs d).path = p
  tree_fresh : ∀ q d, b.tree q = some (.dir d) → d < b.next
  cache_fresh : ∀ p d, b.dirCache p = some d → d < b.next

/-- 橋渡しの状態の不変条件。`Core` に加えて、木の節点の路が根からその節点までの名前の `Join` に等しい。 -/
structure Inv (b : Bridge) extends Core b : Prop where
  tree_path : ∀ q n, b.tree q = some n → b.nodePath n = join ([slash] :: q)

/-- `b'` の記録は、`b` の記録の後ろに、路が `P` を満たす呼び出しを足したものである。 -/
def SendsTo (b b' : Bridge) (P : GoString → Prop) : Prop :=
  ∃ cs, b'.sent = b.sent ++ cs ∧ ∀ c ∈ cs, P c.path

/-- `b'` は `b` から `Dir` の操作で得られる。木は同じで、置いた `Dir` の路は変わらず、`dirCache` に
新しく入った項目は鍵と路が合い、送った呼び出しの路は `P` を満たす。 -/
structure Extends (P : GoString → Prop) (b b' : Bridge) : Prop where
  tree_eq : b'.tree = b.tree
  next_le : b.next ≤ b'.next
  path_eq : ∀ d < b.next, (b'.dirs d).path = (b.dirs d).path
  cache : ∀ p d, b'.dirCache p = some d → b.dirCache p = some d ∨ ((b'.dirs d).path = p ∧ d < b'.next)
  sends : SendsTo b b' P

variable {P Q : GoString → Prop}

theorem sendsTo_refl (b : Bridge) : SendsTo b b P := ⟨[], (List.append_nil _).symm, fun _ h => nomatch h⟩

theorem SendsTo.trans {b₁ b₂ b₃ : Bridge} (h₁ : SendsTo b₁ b₂ P) (h₂ : SendsTo b₂ b₃ P) :
    SendsTo b₁ b₃ P := by
  obtain ⟨cs₁, e₁, p₁⟩ := h₁
  obtain ⟨cs₂, e₂, p₂⟩ := h₂
  exact ⟨cs₁ ++ cs₂, by rw [e₂, e₁, List.append_assoc],
    fun c hc => (List.mem_append.1 hc).elim (p₁ c) (p₂ c)⟩

theorem SendsTo.mono {b b' : Bridge} (h : SendsTo b b' P) (hPQ : ∀ p, P p → Q p) : SendsTo b b' Q :=
  let ⟨cs, e, hcs⟩ := h
  ⟨cs, e, fun c hc => hPQ _ (hcs c hc)⟩

theorem Extends.refl (b : Bridge) : Extends P b b :=
  ⟨rfl, le_rfl, fun _ _ => rfl, fun _ _ h => .inl h, sendsTo_refl b⟩

theorem Extends.trans {b₁ b₂ b₃ : Bridge} (h₁ : Extends P b₁ b₂) (h₂ : Extends P b₂ b₃) :
    Extends P b₁ b₃ where
  tree_eq := h₂.tree_eq.trans h₁.tree_eq
  next_le := h₁.next_le.trans h₂.next_le
  path_eq d hd := (h₂.path_eq d (by have := h₁.next_le; omega)).trans (h₁.path_eq d hd)
  cache p d h := by
    rcases h₂.cache p d h with h | ⟨hp, hd⟩
    · rcases h₁.cache p d h with h | ⟨hp, hd'⟩
      · exact .inl h
      · exact .inr ⟨(h₂.path_eq d hd').trans hp, by have := h₂.next_le; omega⟩
    · exact .inr ⟨hp, hd⟩
  sends := h₁.sends.trans h₂.sends

theorem Extends.mono {b b' : Bridge} (h : Extends P b b') (hPQ : ∀ p, P p → Q p) : Extends Q b b' :=
  { h with sends := h.sends.mono hPQ }

theorem Core.of_extends {b b' : Bridge} (hc : Core b) (he : Extends P b b') : Core b' where
  cache_path p d hp := by
    rcases he.cache p d hp with hp | ⟨hp, _⟩
    · exact (he.path_eq d (hc.cache_fresh p d hp)).trans (hc.cache_path p d hp)
    · exact hp
  tree_fresh q d hq := by
    rw [he.tree_eq] at hq
    exact lt_of_lt_of_le (hc.tree_fresh q d hq) he.next_le
  cache_fresh p d hp := by
    rcases he.cache p d hp with hp | ⟨_, hd⟩
    · exact lt_of_lt_of_le (hc.cache_fresh p d hp) he.next_le
    · exact hd

theorem Inv.of_extends {b b' : Bridge} (hi : Inv b) (he : Extends P b b') : Inv b' where
  toCore := hi.toCore.of_extends he
  tree_path q n hq := by
    rw [he.tree_eq] at hq
    rw [← hi.tree_path q n hq]
    cases n with
    | dir d => exact he.path_eq d (hi.tree_fresh q d hq)
    | file f => rfl

/-! ## 状態の小さな操作 -/

theorem extends_send (b : Bridge) (c : ClientCall) (hc : P c.path) : Extends P b (b.send c) :=
  ⟨rfl, le_rfl, fun _ _ => rfl, fun _ _ h => .inl h, ⟨[c], rfl, by simpa using hc⟩⟩

theorem extends_setDir (b : Bridge) (r : Nat) (d : Dir) (hd : d.path = (b.dirs r).path) :
    Extends P b (b.setDir r d) where
  tree_eq := rfl
  next_le := le_rfl
  path_eq d' _ := by
    by_cases h : d' = r
    · subst h; simp [setDir, hd]
    · simp [setDir, h]
  cache _ _ h := .inl h
  sends := sendsTo_refl b

theorem extends_newDir (b : Bridge) (path : GoString) : Extends P b (b.newDir path).2 where
  tree_eq := rfl
  next_le := Nat.le_succ _
  path_eq d hd := by simp [newDir, Function.update_noteq (Nat.ne_of_lt hd)]
  cache _ _ h := .inl h
  sends := sendsTo_refl b

@[simp] theorem newDir_path (b : Bridge) (path : GoString) :
    ((b.newDir path).2.dirs (b.newDir path).1).path = path := by
  simp [newDir, Dir.new]

/-- サーバに呼び出しを送ってから、`Dir` の路以外の欄を書き換える。どの操作の成功もこの形をとる。 -/
theorem extends_send_setDir (b : Bridge) (c : ClientCall) (hc : P c.path) (r : Nat) (d : Dir)
    (hd : d.path = (b.dirs r).path) : Extends P b ((b.send c).setDir r d) :=
  (extends_send b c hc).trans (extends_setDir _ r d hd)

theorem extends_dirPut (b : Bridge) (path : GoString) (d : Nat) (hp : (b.dirs d).path = path)
    (hd : d < b.next) : Extends P b (b.dirPut path d) where
  tree_eq := rfl
  next_le := le_rfl
  path_eq _ _ := rfl
  cache p d' h := by
    by_cases hq : p = path
    · subst hq
      simp only [dirPut, Function.update_same, Option.some.injEq] at h
      subst h
      exact .inr ⟨hp, hd⟩
    · simp only [dirPut, Function.update_noteq hq] at h
      exact .inl h
  sends := sendsTo_refl b

/-- 新しい `Dir` を置いて `dirPut` する（`Lookup` と `Mkdir` の後半）。 -/
theorem extends_newDir_dirPut (b : Bridge) (path : GoString) :
    Extends P b ((b.newDir path).2.dirPut path (b.newDir path).1) :=
  (extends_newDir b path).trans (extends_dirPut _ _ _ (newDir_path b path) (Nat.lt_succ_self _))

/-! ## `Dir` の操作

どの操作も `Extends` で、送る呼び出しは `Dir` の路かその子の路を名指す。節点を返すものは、その節点が
親の路に名前を `Join` した路を指す。
-/

/-- 節点 `n` は状態 `b` で路 `p` を指し、`Dir` なら置き場の中にある。 -/
def Names (b : Bridge) (n : Node) (p : GoString) : Prop :=
  b.nodePath n = p ∧ ∀ d, n = .dir d → d < b.next

theorem names_newDir_dirPut (b : Bridge) (path : GoString) :
    Names ((b.newDir path).2.dirPut path (b.newDir path).1) (.dir (b.newDir path).1) path :=
  ⟨newDir_path b path, fun _ h => by cases h; exact Nat.lt_succ_self _⟩

theorem extends_fillDirCache (b : Bridge) (r : Nat) (now : Time) (reply : Option (List Stat)) :
    Extends (· = (b.dirs r).path) b (b.fillDirCache r now reply).1 := by
  unfold fillDirCache
  dsimp only
  split
  · cases reply
    · exact extends_send _ _ (by rfl)
    · exact extends_send_setDir _ _ (by rfl) _ _ (by rfl)
  · exact Extends.refl b

theorem lookup_spec {b : Bridge} (hi : Core b) {r : Nat} (hr : r < b.next) (name : GoString)
    (now : Time) (reply : Option (List Stat)) :
    Extends (· = (b.dirs r).path) b (b.lookup r name now reply).1 ∧
      ∀ n a, (b.lookup r name now reply).2 = .ok (n, a) →
        Names (b.lookup r name now reply).1 n (join [(b.dirs r).path, name]) := by
  have h1 := extends_fillDirCache b r now reply
  unfold lookup
  rcases hf : b.fillDirCache r now reply with ⟨b1, e | ⟨⟩⟩
  · rw [hf] at h1
    exact ⟨h1, by simp⟩
  rw [hf] at h1
  have hp : (b1.dirs r).path = (b.dirs r).path := h1.path_eq r hr
  have hi1 := hi.of_extends h1
  simp only [hp]
  split
  · exact ⟨h1, by simp⟩
  split
  · split
    · rename_i d hd
      exact ⟨h1, by
        rintro n a ⟨⟩
        exact ⟨hi1.cache_path _ _ hd, fun d' h => by cases h; exact hi1.cache_fresh _ _ hd⟩⟩
    · exact ⟨h1.trans (extends_newDir_dirPut _ _), by rintro n a ⟨⟩; exact names_newDir_dirPut _ _⟩
  · exact ⟨h1, by rintro n a ⟨⟩; exact ⟨rfl, fun _ h => by cases h⟩⟩

theorem extends_readdir (b : Bridge) (r : Nat) (now : Time) (reply : Option (List Stat)) :
    Extends (· = (b.dirs r).path) b (b.readdir r now reply).1 := by
  have h1 := extends_fillDirCache b r now reply
  unfold readdir
  rcases hf : b.fillDirCache r now reply with ⟨b1, e | ⟨⟩⟩ <;> rw [hf] at h1 <;> exact h1

theorem extends_oldGetattr (b : Bridge) (r : Nat) (now : Time) (reply : Option Stat) :
    Extends (· = (b.dirs r).path) b (b.oldGetattr r now reply).1 := by
  have hfetch : Extends (· = (b.dirs r).path) b (match reply with
      | none => ((b.send (.stat (b.dirs r).path)), (.error .enoent : Except Errno Attr))
      | some stat => ((b.send (.stat (b.dirs r).path)).setDir r
          { b.dirs r with statCache := some stat, statTTL := now + defaultTTL }, .ok (.ofStat stat))).1 := by
    cases reply
    · exact extends_send _ _ (by rfl)
    · exact extends_send_setDir _ _ (by rfl) _ _ (by rfl)
  unfold oldGetattr
  dsimp only
  split
  · exact hfetch
  · split
    · exact hfetch
    · exact Extends.refl b

/-- `Getattr` の共通の本体は、路 `path` と、`dirCache` にある親の `Dir` の路（`path.Dir` した路）だけを
名指す。`old` は、それまでの操作のあとの状態から `path` だけを名指すとする。 -/
theorem extends_getattrAt {b : Bridge} (hi : Core b) (path : GoString) (now : Time)
    (parentReply : Option (List Stat)) {old : Bridge → Bridge × Except Errno Attr}
    (hold : ∀ {Q : GoString → Prop} b', Extends Q b b' → Extends (· = path) b' (old b').1) :
    Extends (fun p => p = path ∨ p = pathDir path) b (b.getattrAt path now parentReply old).1 := by
  unfold getattrAt
  split
  · exact (hold b (Extends.refl (P := fun _ => True) b)).mono fun _ => .inl
  · rename_i p hp
    have h1 : Extends (fun p => p = path ∨ p = pathDir path) b (b.readdir p now parentReply).1 :=
      (extends_readdir b p now parentReply).mono fun _ h => .inr (h.trans (hi.cache_path _ _ hp))
    rcases hf : b.readdir p now parentReply with ⟨b1, e | _⟩ <;> rw [hf] at h1
    · exact h1
    · dsimp only
      split
      · exact h1
      · exact h1.trans ((hold b1 h1).mono fun _ => .inl)

theorem extends_getattr {b : Bridge} (hi : Core b) {r : Nat} (hr : r < b.next) (now : Time)
    (parentReply : Option (List Stat)) (statReply : Option Stat) :
    Extends (fun p => p = (b.dirs r).path ∨ p = pathDir (b.dirs r).path) b
      (b.getattr r now parentReply statReply).1 :=
  extends_getattrAt hi _ now parentReply fun b' he => by
    simpa only [he.path_eq r hr] using extends_oldGetattr b' r now statReply

theorem extends_setattrAt (b : Bridge) (path : GoString) (mode : Option UInt32) (size : Option UInt64)
    (reply : Bool) : Extends (· = path) b (b.setattrAt path mode size reply).1 := by
  unfold setattrAt
  dsimp only
  split
  · cases reply <;> exact extends_send _ _ (by rfl)
  · exact Extends.refl b

theorem create_spec (b : Bridge) (r : Nat) (name : GoString) (mode : UInt32) (reply : Bool) :
    Extends (· = join [(b.dirs r).path, name]) b (b.create r name mode reply).1 ∧
      ∀ n, (b.create r name mode reply).2 = .ok n →
        Names (b.create r name mode reply).1 n (join [(b.dirs r).path, name]) := by
  unfold create
  cases reply
  · exact ⟨extends_send _ _ (by rfl), by simp⟩
  · refine ⟨extends_send_setDir _ _ (by rfl) _ _ (by rfl), ?_⟩
    rintro n ⟨⟩
    exact ⟨rfl, fun _ h => by cases h⟩

theorem mkdir_spec (b : Bridge) (r : Nat) (name : GoString) (mode : UInt32) (reply : Bool) :
    Extends (· = join [(b.dirs r).path, name]) b (b.mkdir r name mode reply).1 ∧
      ∀ n, (b.mkdir r name mode reply).2 = .ok n →
        Names (b.mkdir r name mode reply).1 n (join [(b.dirs r).path, name]) := by
  unfold mkdir
  cases reply
  · exact ⟨extends_send _ _ (by rfl), by simp⟩
  · exact ⟨(extends_send_setDir _ _ (by rfl) _ _ (by rfl)).trans (extends_newDir_dirPut _ _),
      by rintro n ⟨⟩; exact names_newDir_dirPut _ _⟩

theorem extends_removeEntry (b : Bridge) (r : Nat) (name : GoString) (reply : Bool) :
    Extends (· = join [(b.dirs r).path, name]) b (b.removeEntry r name reply).1 := by
  unfold removeEntry
  cases reply
  · exact extends_send _ _ (by rfl)
  · exact extends_send_setDir _ _ (by rfl) _ _ (by rfl)

theorem extends_rename (b : Bridge) (r : Nat) (name : GoString) (newParent : Option Nat)
    (newName : GoString) (reply : Bool) :
    Extends (· = join [(b.dirs r).path, name]) b (b.rename r name newParent newName reply).1 := by
  unfold rename
  rcases newParent with _ | newD
  · exact Extends.refl b
  · dsimp only
    split
    · exact Extends.refl b
    · cases reply
      · exact extends_send _ _ (by rfl)
      · exact extends_send_setDir _ _ (by rfl) _ _ (by rfl)

/-! ## `FileNode` の操作

`FileNode` の操作は `Dir` を書き換えず、ファイルの路と、`Getattr` では親の路だけを名指す。
-/

theorem extends_fileOpen (b : Bridge) (f : FileNode) (flags : UInt32) (openReply : Bool)
    (statReply : Option Stat) : Extends (· = f.path) b (b.fileOpen f flags openReply statReply).1 := by
  unfold fileOpen
  cases openReply
  · exact extends_send _ _ (by rfl)
  · have h : Extends (· = f.path) b ((b.send (.openFile f.path (convertFlag flags))).send (.stat f.path)) :=
      (extends_send b _ (by rfl)).trans (extends_send _ _ (by rfl))
    cases statReply <;> exact h

theorem extends_fileOldGetattr (b : Bridge) (f : FileNode) (reply : Option Stat) :
    Extends (· = f.path) b (b.fileOldGetattr f reply).1 := by
  unfold fileOldGetattr
  cases reply <;> exact extends_send _ _ (by rfl)

theorem extends_fileGetattr {b : Bridge} (hi : Core b) (f : FileNode) (now : Time)
    (parentReply : Option (List Stat)) (statReply : Option Stat) :
    Extends (fun p => p = f.path ∨ p = pathDir f.path) b (b.fileGetattr f now parentReply statReply).1 :=
  extends_getattrAt hi _ now parentReply fun b' _ => extends_fileOldGetattr b' f statReply

/-- `FileNode` への呼び出しにできること。木も `Dir` も変えず、送る呼び出しは `Op.targets` の路を名指す。 -/
theorem fileCall_extends {b : Bridge} (hi : Core b) (f : FileNode) (op : Op) :
    Extends (· ∈ op.targets f.path) b (b.fileCall f op) := by
  cases op <;> dsimp only [fileCall]
  case getattr now parentReply statReply =>
    exact (extends_fileGetattr hi f now parentReply statReply).mono fun _ h => by
      rcases h with h | h <;> simp [Op.targets, h]
  case setattr mode size reply =>
    exact (extends_setattrAt b f.path mode size reply).mono fun _ => List.mem_singleton.2
  case openFile flags openReply statReply =>
    exact (extends_fileOpen b f flags openReply statReply).mono fun _ => List.mem_singleton.2
  all_goals exact Extends.refl b

/-! ## 一つの呼び出し -/

/-- go-fuse が、路 `p` の節点 `node` への操作のあと、その結果 `b'` の上で木にすること。何もしないか、
子 `name` に、`p` に名前を `Join` した路を指す節点を付けるか、子を外すか、`Rename` の子を移す。 -/
inductive TreeChange (p : GoString) (node : List GoString) (op : Op) (b' : Bridge) : Bridge → Prop
  | keep : TreeChange p node op b' b'
  | attach (name : GoString) (n : Node) (hn : Names b' n (join [p, name])) :
      TreeChange p node op b' (b'.attach (node ++ [name]) n)
  | detach (name : GoString) : TreeChange p node op b' (b'.detach (node ++ [name]))
  | move (name : GoString) (newParent : List GoString) (newName : GoString) (reply : Bool)
      (hop : op = .rename name newParent newName reply) :
      TreeChange p node op b' (b'.move (node ++ [name]) (newParent ++ [newName]))

/-- 一つの `Dir` への呼び出しにできること。`Dir` の操作で `Extends` な状態に移り、送る呼び出しは
`Op.targets` の路を名指し、そのうえで go-fuse が木を `TreeChange` のどれかの形で変える。 -/
theorem call_cases {b : Bridge} (hi : Core b) {r : Nat} (hr : r < b.next) (node : List GoString)
    (op : Op) :
    ∃ b', Extends (· ∈ op.targets (b.dirs r).path) b b' ∧
      TreeChange (b.dirs r).path node op b' (b.call node r op) := by
  have hone : ∀ x p : GoString, x = p → x ∈ [p] := fun _ _ => List.mem_singleton.2
  cases op <;> dsimp only [call]
  case lookup name now reply =>
    obtain ⟨he, hn⟩ := lookup_spec hi hr name now reply
    revert he hn
    rcases b.lookup r name now reply with ⟨b', _ | ⟨n, a⟩⟩
    · exact fun he _ => ⟨b', he.mono (hone · _), .keep⟩
    · exact fun he hn => ⟨b', he.mono (hone · _), .attach name n (hn n a rfl)⟩
  case readdir now reply => exact ⟨_, (extends_readdir b r now reply).mono (hone · _), .keep⟩
  case getattr now parentReply statReply =>
    exact ⟨_, (extends_getattr hi hr now parentReply statReply).mono fun _ h => by
      rcases h with h | h <;> simp [Op.targets, h], .keep⟩
  case setattr mode size reply =>
    exact ⟨_, (extends_setattrAt b _ mode size reply).mono (hone · _), .keep⟩
  case openFile => exact ⟨b, Extends.refl b, .keep⟩
  case create name mode reply =>
    obtain ⟨he, hn⟩ := create_spec b r name mode reply
    revert he hn
    rcases b.create r name mode reply with ⟨b', _ | n⟩
    · exact fun he _ => ⟨b', he.mono (hone · _), .keep⟩
    · exact fun he hn => ⟨b', he.mono (hone · _), .attach name n (hn n rfl)⟩
  case mkdir name mode reply =>
    obtain ⟨he, hn⟩ := mkdir_spec b r name mode reply
    revert he hn
    rcases b.mkdir r name mode reply with ⟨b', _ | n⟩
    · exact fun he _ => ⟨b', he.mono (hone · _), .keep⟩
    · exact fun he hn => ⟨b', he.mono (hone · _), .attach name n (hn n rfl)⟩
  case unlink name reply =>
    have he : Extends _ b (b.unlink r name reply).1 := extends_removeEntry b r name reply
    revert he
    rcases b.unlink r name reply with ⟨b', _ | ⟨⟩⟩
    · exact fun he => ⟨b', he.mono (hone · _), .keep⟩
    · exact fun he => ⟨b', he.mono (hone · _), .detach name⟩
  case rmdir name reply =>
    have he : Extends _ b (b.rmdir r name reply).1 := extends_removeEntry b r name reply
    revert he
    rcases b.rmdir r name reply with ⟨b', _ | ⟨⟩⟩
    · exact fun he => ⟨b', he.mono (hone · _), .keep⟩
    · exact fun he => ⟨b', he.mono (hone · _), .detach name⟩
  case rename name newParent newName reply =>
    have he := extends_rename b r name (b.dirAt newParent) newName reply
    revert he
    rcases b.rename r name (b.dirAt newParent) newName reply with ⟨b', _ | ⟨⟩⟩
    · exact fun he => ⟨b', he.mono (hone · _), .keep⟩
    · exact fun he => ⟨b', he.mono (hone · _), .move name newParent newName reply rfl⟩

/-- 一つの呼び出しにできること。`Dir` か `FileNode` の操作で `Extends` な状態に移り、送る呼び出しは
節点の今の場所 `path.Join("/", node...)` から `Op.targets` で決まる路を名指す。そのうえで go-fuse が
木を `TreeChange` のどれかの形で変える。 -/
theorem step_cases {b : Bridge} (hi : Inv b) (node : List GoString) (op : Op) :
    ∃ b', Extends (· ∈ op.targets (join ([slash] :: node))) b b' ∧
      TreeChange (join ([slash] :: node)) node op b' (b.step node op) := by
  unfold step
  split
  · rename_i r hr
    obtain ⟨b', he, hc⟩ := call_cases hi.toCore (hi.tree_fresh node r hr) node op
    rw [show (b.dirs r).path = _ from hi.tree_path node _ hr] at he hc
    exact ⟨b', he, hc⟩
  · rename_i f hf
    have hp : f.path = join ([slash] :: node) := hi.tree_path node _ hf
    exact ⟨_, hp ▸ fileCall_extends hi.toCore f op, .keep⟩
  · exact ⟨b, Extends.refl b, .keep⟩

/-! ## 木の操作 -/

theorem Core.attach {b : Bridge} (hc : Core b) {q : List GoString} {n : Node}
    (hn : ∀ d, n = .dir d → d < b.next) : Core (b.attach q n) where
  cache_path := hc.cache_path
  tree_fresh x d hx := by
    simp only [Bridge.attach] at hx
    split_ifs at hx
    · cases hx; exact hn d rfl
    · exact hc.tree_fresh x d hx
  cache_fresh := hc.cache_fresh

theorem Core.detach {b : Bridge} (hc : Core b) (q : List GoString) : Core (b.detach q) where
  cache_path := hc.cache_path
  tree_fresh x d hx := by
    simp only [Bridge.detach] at hx
    split_ifs at hx
    exact hc.tree_fresh x d hx
  cache_fresh := hc.cache_fresh

/-- 部分木を移しても、木の参照は元の木のものなので置き場の中にある。 -/
theorem Core.move {b : Bridge} (hc : Core b) (src dst : List GoString) : Core (b.move src dst) where
  cache_path := hc.cache_path
  tree_fresh x d hx := by
    simp only [Bridge.move] at hx
    split_ifs at hx
    · exact hc.tree_fresh _ d hx
    · exact hc.tree_fresh x d hx
  cache_fresh := hc.cache_fresh

theorem Inv.attach {b : Bridge} (hi : Inv b) {q : List GoString} {n : Node}
    (hn : Names b n (join ([slash] :: q))) : Inv (b.attach q n) where
  toCore := hi.toCore.attach hn.2
  tree_path x m hx := by
    simp only [Bridge.attach] at hx
    split_ifs at hx with h
    · cases hx; subst h; exact hn.1
    · exact hi.tree_path x m hx

theorem Inv.detach {b : Bridge} (hi : Inv b) (q : List GoString) : Inv (b.detach q) where
  toCore := hi.toCore.detach q
  tree_path x m hx := by
    simp only [Bridge.detach] at hx
    split_ifs at hx
    exact hi.tree_path x m hx

/-- 同じ場所への `move` は何もしない。 -/
@[simp] theorem move_self (b : Bridge) (q : List GoString) : b.move q q = b := by
  simp only [move]
  congr
  funext x
  split_ifs with h
  · obtain ⟨t, rfl⟩ := h
    simp
  · rfl

/-! ## 呼び出しの列 -/

/-- 一つの呼び出しは、節点を動かさなければ不変条件を保つ。 -/
theorem Inv.step {b : Bridge} (hi : Inv b) (node : List GoString) (op : Op) (hop : op.inPlace node) :
    Inv (b.step node op) := by
  obtain ⟨b', he, hc⟩ := step_cases hi node op
  have hi' := hi.of_extends he
  generalize b.step node op = b₂ at hc
  cases hc with
  | keep => exact hi'
  | attach name n hn =>
    rw [join_root_snoc] at hn
    exact hi'.attach hn
  | detach name => exact hi'.detach _
  | move name newParent newName reply hop' =>
    subst hop'
    simp only [Op.inPlace, Bool.and_eq_true, beq_iff_eq] at hop
    rw [hop.1, hop.2, move_self]
    exact hi'

theorem inv_init : Inv init where
  tree_path q n h := by
    simp only [init] at h
    split_ifs at h with hq
    cases h; subst hq
    rfl
  cache_path p d h := by
    simp only [init] at h
    split_ifs at h with hp
    cases h; exact hp.symm
  tree_fresh q d h := by
    simp only [init] at h
    split_ifs at h
    cases h; exact Nat.one_pos
  cache_fresh p d h := by
    simp only [init] at h
    split_ifs at h
    cases h; exact Nat.one_pos

theorem Inv.run {b : Bridge} (hi : Inv b) (es : List Event) (hes : ∀ e ∈ es, e.op.inPlace e.node) :
    Inv (b.run es) := by
  induction es generalizing b with
  | nil => exact hi
  | cons e es ih =>
    simp only [List.mem_cons, forall_eq_or_imp] at hes
    exact ih (hi.step e.node e.op hes.1) hes.2

/-- どの呼び出しも `Core` を保つ。`Rename` が節点を別の名前の下へ移しても、`dirCache` の鍵と `Dir` の路は
合ったままで、参照は置き場の中にある。 -/
theorem Core.step {b : Bridge} (hc : Core b) (node : List GoString) (op : Op) : Core (b.step node op) := by
  unfold Bridge.step
  split
  · rename_i r hr
    obtain ⟨b', he, hch⟩ := call_cases hc (hc.tree_fresh node r hr) node op
    have hc' := hc.of_extends he
    generalize b.call node r op = b₂ at hch
    cases hch with
    | keep => exact hc'
    | attach name n hn => exact hc'.attach hn.2
    | detach name => exact hc'.detach _
    | move name newParent newName reply _ => exact hc'.move _ _
  · exact hc.of_extends (fileCall_extends hc _ op)
  · exact hc

theorem Core.run {b : Bridge} (hc : Core b) (es : List Event) : Core (b.run es) := by
  induction es generalizing b with
  | nil => exact hc
  | cons e es ih => exact ih (hc.step e.node e.op)

end Bridge

end Go9p
