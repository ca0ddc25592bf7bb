import Go9p.Mount.Bridge

/-!
# 期限の切れた内容のキャッシュは見えない

`Create`, `Mkdir`, `Unlink`, `Rmdir`, `Rename` は `Dir` の内容のキャッシュの期限を `time.Time{}`（0）にする。
`Lookup` と `Readdir` は `time.Now().After(r.dirTTL)` ならサーバから読み直すので、0 より後の時刻には、
期限が 0 のキャッシュの中身を読むことがない。`Create` と `Mkdir` がキャッシュの後ろに足す `Stat` も、
その前にあったものも、カーネルには答えられない。

期限が 0 の内容を消した状態を `Bridge.observed` と書き、どの操作もそれと可換であること（`IgnoresExpired`）を
示す。そこから、見える状態の等しい二つの状態は、時刻が 0 より後の呼び出しの列のあとでも、送るもの、木、
答えが等しい。
-/

namespace Go9p

/-- 呼び出しの時刻が `time.Time{}` より後である。`time.Now()` はいつもそうである。時刻を持たない呼び出しは
いつでも成り立つ。 -/
def Op.afterZero : Op → Bool
  | .lookup _ now _ => 0 < now
  | .readdir now _ => 0 < now
  | .getattr now _ _ => 0 < now
  | _ => true

namespace Dir

/-- カーネルから見える `Dir`。内容のキャッシュの期限が `time.Time{}` なら、0 より後のどの時刻にも読み直す
ので、その中身を消す。 -/
def observed (d : Dir) : Dir := if d.dirTTL = 0 then { d with dirCache := none } else d

theorem observed_of_ne {d : Dir} (h : d.dirTTL ≠ 0) : d.observed = d := if_neg h

@[simp] theorem observed_path (d : Dir) : d.observed.path = d.path := by
  unfold observed; split_ifs <;> rfl

@[simp] theorem observed_statCache (d : Dir) : d.observed.statCache = d.statCache := by
  unfold observed; split_ifs <;> rfl

@[simp] theorem observed_statTTL (d : Dir) : d.observed.statTTL = d.statTTL := by
  unfold observed; split_ifs <;> rfl

@[simp] theorem observed_dirTTL (d : Dir) : d.observed.dirTTL = d.dirTTL := by
  unfold observed; split_ifs <;> rfl

@[simp] theorem observed_new (path : GoString) : (Dir.new path).observed = Dir.new path := rfl

@[simp] theorem observed_dirCache (d : Dir) :
    d.observed.dirCache = if d.dirTTL = 0 then none else d.dirCache := by
  unfold observed; split_ifs <;> rfl

/-- 欄を並べて作った `Dir` の見えるところ。期限が 0 なら内容のキャッシュを消す。 -/
@[simp] theorem observed_mk (path : GoString) (statCache : Option Stat) (statTTL : Time)
    (dirCache : Option (List Stat)) (dirTTL : Time) :
    (Dir.mk path statCache statTTL dirCache dirTTL).observed =
      Dir.mk path statCache statTTL (if dirTTL = 0 then none else dirCache) dirTTL := by
  unfold observed; split_ifs <;> simp_all

@[simp] theorem observed_observed (d : Dir) : d.observed.observed = d.observed := by
  unfold observed; split_ifs <;> simp_all

end Dir

namespace Bridge

/-- カーネルから見える状態。期限が `time.Time{}` の `Dir` の内容のキャッシュを消す。 -/
def observed (b : Bridge) : Bridge := { b with dirs := fun r => (b.dirs r).observed }

/-! ## 小さな操作は `observed` と可換 -/

@[simp] theorem observed_dirs (b : Bridge) (r : Nat) : b.observed.dirs r = (b.dirs r).observed := rfl
@[simp] theorem observed_next (b : Bridge) : b.observed.next = b.next := rfl
@[simp] theorem observed_dirCache (b : Bridge) : b.observed.dirCache = b.dirCache := rfl
@[simp] theorem observed_tree (b : Bridge) : b.observed.tree = b.tree := rfl
@[simp] theorem observed_sent (b : Bridge) : b.observed.sent = b.sent := rfl

@[simp] theorem observed_dirGet (b : Bridge) : b.observed.dirGet = b.dirGet := rfl
@[simp] theorem observed_dirAt (b : Bridge) : b.observed.dirAt = b.dirAt := rfl

@[simp] theorem observed_observed (b : Bridge) : b.observed.observed = b.observed := by
  simp only [observed, Dir.observed_observed]

@[simp] theorem observed_send (b : Bridge) (c : ClientCall) : (b.send c).observed = b.observed.send c := rfl

@[simp] theorem observed_setDir (b : Bridge) (r : Nat) (d : Dir) :
    (b.setDir r d).observed = b.observed.setDir r d.observed := by
  simp only [observed, setDir, mk.injEq, and_true]
  funext x
  by_cases hx : x = r
  · subst hx; simp
  · simp [hx]

@[simp] theorem send_next (b : Bridge) (c : ClientCall) : (b.send c).next = b.next := rfl
@[simp] theorem setDir_next (b : Bridge) (r : Nat) (d : Dir) : (b.setDir r d).next = b.next := rfl

@[simp] theorem newDir_fst (b : Bridge) (path : GoString) : (b.newDir path).1 = b.next := rfl

/-- 新しい `Dir` は内容のキャッシュを持たないので、消すものがない。 -/
theorem observed_newDir (b : Bridge) (path : GoString) :
    b.observed.newDir path = ((b.newDir path).1, (b.newDir path).2.observed) := by
  simp only [observed, newDir, Prod.mk.injEq, mk.injEq, true_and, and_true]
  funext x
  by_cases hx : x = b.next
  · subst hx; simp
  · simp [hx]

@[simp] theorem observed_newDir_snd (b : Bridge) (path : GoString) :
    (b.newDir path).2.observed = (b.observed.newDir path).2 := by
  rw [observed_newDir]

@[simp] theorem observed_dirPut (b : Bridge) (path : GoString) (d : Nat) :
    (b.dirPut path d).observed = b.observed.dirPut path d := rfl

@[simp] theorem observed_attach (b : Bridge) (q : List GoString) (n : Node) :
    (b.attach q n).observed = b.observed.attach q n := rfl

@[simp] theorem observed_detach (b : Bridge) (q : List GoString) :
    (b.detach q).observed = b.observed.detach q := rfl

@[simp] theorem observed_move (b : Bridge) (src dst : List GoString) :
    (b.move src dst).observed = b.observed.move src dst := rfl

/-! ## 操作は期限の切れた内容を読まない -/

/-- 操作 `f` は、期限が `time.Time{}` の内容のキャッシュを読まない。それを消した状態から始めても、その後の
状態の見えるところと答えが同じである。 -/
def IgnoresExpired {α : Type} (f : Bridge → Bridge × α) : Prop :=
  ∀ b, (f b.observed).1.observed = (f b).1.observed ∧ (f b.observed).2 = (f b).2

/-- 消した状態から始めた `f` が、その後の状態を消したものを返すなら、`f` は期限の切れた内容を読まない。 -/
theorem IgnoresExpired.of_eq {α : Type} {f : Bridge → Bridge × α}
    (h : ∀ b, f b.observed = ((f b).1.observed, (f b).2)) : IgnoresExpired f := fun b => by
  simp [h b]

/-- 見えるところの等しい二つの状態からは、見えるところの等しい状態と同じ答えに移る。 -/
theorem IgnoresExpired.agree {α : Type} {f : Bridge → Bridge × α} (hf : IgnoresExpired f) {b b' : Bridge}
    (h : b.observed = b'.observed) : (f b).1.observed = (f b').1.observed ∧ (f b).2 = (f b').2 := by
  obtain ⟨h1, h2⟩ := hf b
  obtain ⟨h1', h2'⟩ := hf b'
  rw [h] at h1 h2
  exact ⟨h1.symm.trans h1', h2.symm.trans h2'⟩

section Now

variable {now : Time} (hnow : 0 < now)
include hnow

theorem fillDirCache_observed (b : Bridge) (r : Nat) (reply : Option (List Stat)) :
    b.observed.fillDirCache r now reply =
      ((b.fillDirCache r now reply).1.observed, (b.fillDirCache r now reply).2) := by
  simp only [fillDirCache, observed_dirs, Dir.observed_dirTTL]
  by_cases h0 : (b.dirs r).dirTTL = 0
  · have hexp : now > (b.dirs r).dirTTL := h0 ▸ hnow
    simp only [hexp, or_true, if_true]
    cases reply <;> simp [defaultTTL]
  · rw [Dir.observed_of_ne h0]
    split_ifs
    · cases reply <;> simp [defaultTTL]
    · rfl

/-- 読み直しが成功すれば、内容のキャッシュの期限は 0 でない。 -/
theorem fillDirCache_ok_dirTTL {b b₁ : Bridge} {r : Nat} {reply : Option (List Stat)}
    (h : b.fillDirCache r now reply = (b₁, .ok ())) : (b₁.dirs r).dirTTL ≠ 0 := by
  simp only [fillDirCache] at h
  split_ifs at h with hc
  · cases reply <;> cases h
    simp [setDir, send, defaultTTL]
  · cases h
    exact fun h0 => hc (.inr (h0 ▸ hnow))

theorem lookup_observed (b : Bridge) (r : Nat) (name : GoString) (reply : Option (List Stat)) :
    b.observed.lookup r name now reply =
      ((b.lookup r name now reply).1.observed, (b.lookup r name now reply).2) := by
  unfold lookup
  rw [fillDirCache_observed hnow]
  rcases hf : b.fillDirCache r now reply with ⟨b₁, _ | u⟩
  · rfl
  · cases u
    simp only [observed_dirs, Dir.observed_of_ne (fillDirCache_ok_dirTTL hnow hf), observed_dirGet]
    split
    · rfl
    · split_ifs
      · split
        · rfl
        · rw [observed_newDir]
          rfl
      · rfl

theorem readdir_observed (b : Bridge) (r : Nat) (reply : Option (List Stat)) :
    b.observed.readdir r now reply = ((b.readdir r now reply).1.observed, (b.readdir r now reply).2) := by
  unfold readdir
  rw [fillDirCache_observed hnow]
  rcases hf : b.fillDirCache r now reply with ⟨b₁, _ | u⟩
  · rfl
  · cases u
    simp only [observed_dirs, Dir.observed_of_ne (fillDirCache_ok_dirTTL hnow hf)]

theorem readdir_ok_dirTTL {b b₁ : Bridge} {r : Nat} {reply : Option (List Stat)} {entries : List DirEntry}
    (h : b.readdir r now reply = (b₁, .ok entries)) : (b₁.dirs r).dirTTL ≠ 0 := by
  unfold readdir at h
  rcases hf : b.fillDirCache r now reply with ⟨b₂, _ | u⟩ <;> rw [hf] at h <;> cases h
  exact fillDirCache_ok_dirTTL hnow hf

end Now

theorem oldGetattr_observed (b : Bridge) (r : Nat) (now : Time) (reply : Option Stat) :
    b.observed.oldGetattr r now reply = ((b.oldGetattr r now reply).1.observed, (b.oldGetattr r now reply).2) := by
  simp only [oldGetattr, observed_dirs, Dir.observed_statCache, Dir.observed_statTTL, Dir.observed_path]
  rcases (b.dirs r).statCache with _ | stat
  · cases reply <;> simp
  · dsimp only
    split_ifs
    · cases reply <;> simp
    · rfl

theorem fileOldGetattr_observed (b : Bridge) (f : FileNode) (reply : Option Stat) :
    b.observed.fileOldGetattr f reply =
      ((b.fileOldGetattr f reply).1.observed, (b.fileOldGetattr f reply).2) := by
  unfold fileOldGetattr
  cases reply <;> rfl

theorem getattrAt_observed {now : Time} (hnow : 0 < now) (b : Bridge) (path : GoString)
    (parentReply : Option (List Stat)) {old : Bridge → Bridge × Except Errno Attr}
    (hold : ∀ b, old b.observed = ((old b).1.observed, (old b).2)) :
    b.observed.getattrAt path now parentReply old =
      ((b.getattrAt path now parentReply old).1.observed, (b.getattrAt path now parentReply old).2) := by
  unfold getattrAt
  rw [observed_dirGet]
  rcases b.dirGet (pathDir path) with _ | p
  · exact hold b
  · dsimp only
    rw [readdir_observed hnow]
    rcases hr : b.readdir p now parentReply with ⟨b₁, _ | entries⟩
    · rfl
    · simp only [observed_dirs, Dir.observed_of_ne (readdir_ok_dirTTL hnow hr)]
      split
      · rfl
      · exact hold b₁

theorem setattrAt_observed (b : Bridge) (path : GoString) (mode : Option UInt32) (size : Option UInt64)
    (reply : Bool) :
    b.observed.setattrAt path mode size reply =
      ((b.setattrAt path mode size reply).1.observed, (b.setattrAt path mode size reply).2) := by
  unfold setattrAt
  split_ifs <;> cases reply <;> rfl

theorem fileOpen_observed (b : Bridge) (f : FileNode) (flags : UInt32) (openReply : Bool)
    (statReply : Option Stat) :
    b.observed.fileOpen f flags openReply statReply =
      ((b.fileOpen f flags openReply statReply).1.observed, (b.fileOpen f flags openReply statReply).2) := by
  unfold fileOpen
  cases openReply <;> cases statReply <;> rfl

/-! ## 期限を 0 にする操作 -/

theorem create_ignoresExpired (r : Nat) (name : GoString) (mode : UInt32) (reply : Bool) :
    IgnoresExpired (·.create r name mode reply) := fun b => by
  unfold create
  cases reply <;> simp

theorem mkdir_ignoresExpired (r : Nat) (name : GoString) (mode : UInt32) (reply : Bool) :
    IgnoresExpired (·.mkdir r name mode reply) := fun b => by
  unfold mkdir
  cases reply <;> simp

theorem removeEntry_ignoresExpired (r : Nat) (name : GoString) (reply : Bool) :
    IgnoresExpired (·.removeEntry r name reply) := fun b => by
  unfold removeEntry
  cases reply <;> simp

theorem rename_ignoresExpired (r : Nat) (name : GoString) (newParent : Option Nat) (newName : GoString)
    (reply : Bool) : IgnoresExpired (·.rename r name newParent newName reply) := fun b => by
  unfold rename
  rcases newParent with _ | newD
  · simp
  · dsimp only
    split_ifs <;> simp

/-! ## 呼び出しの列 -/

theorem call_observed (b : Bridge) (node : List GoString) (r : Nat) {op : Op} (hop : op.afterZero) :
    (b.observed.call node r op).observed = (b.call node r op).observed := by
  cases op <;> simp only [Op.afterZero, decide_eq_true_eq] at hop <;> simp only [call, unlink, rmdir]
  case lookup name now reply =>
    rw [lookup_observed hop]
    rcases b.lookup r name now reply with ⟨b₁, _ | ⟨n, a⟩⟩ <;> simp
  case readdir now reply => simp [readdir_observed hop]
  case getattr now parentReply statReply =>
    simp only [getattr, observed_dirs, Dir.observed_path]
    rw [@getattrAt_observed now hop b _ _ (·.oldGetattr r now statReply) (oldGetattr_observed · r now statReply)]
    simp
  case setattr mode size reply => simp [setattr, setattrAt_observed]
  case openFile => simp
  case create name mode reply =>
    have := create_ignoresExpired r name mode reply b
    split <;> split <;> simp_all
  case mkdir name mode reply =>
    have := mkdir_ignoresExpired r name mode reply b
    split <;> split <;> simp_all
  case unlink name reply =>
    have := removeEntry_ignoresExpired r name reply b
    split <;> split <;> simp_all
  case rmdir name reply =>
    have := removeEntry_ignoresExpired r name reply b
    split <;> split <;> simp_all
  case rename name newParent newName reply =>
    have := rename_ignoresExpired r name (b.dirAt newParent) newName reply b
    rw [observed_dirAt]
    split <;> split <;> simp_all

theorem fileCall_observed (b : Bridge) (f : FileNode) {op : Op} (hop : op.afterZero) :
    (b.observed.fileCall f op).observed = (b.fileCall f op).observed := by
  cases op <;> simp only [Op.afterZero, decide_eq_true_eq] at hop <;> simp only [fileCall, observed_observed]
  case getattr now parentReply statReply =>
    simp only [fileGetattr]
    rw [@getattrAt_observed now hop b _ _ (·.fileOldGetattr f statReply) (fileOldGetattr_observed · f statReply)]
    simp
  case setattr mode size reply => simp [fileSetattr, setattrAt_observed]
  case openFile flags openReply statReply => simp [fileOpen_observed]

theorem step_observed (b : Bridge) (node : List GoString) {op : Op} (hop : op.afterZero) :
    (b.observed.step node op).observed = (b.step node op).observed := by
  simp only [step, observed_tree]
  split
  · exact call_observed b node _ hop
  · exact fileCall_observed b _ hop
  · exact observed_observed b

/-- 見えるところの等しい二つの状態は、時刻が 0 より後の呼び出しの列のあとでも見えるところが等しい。 -/
theorem run_observed {b b' : Bridge} (h : b.observed = b'.observed) {es : List Event}
    (hes : ∀ e ∈ es, e.op.afterZero) : (b.run es).observed = (b'.run es).observed := by
  induction es generalizing b b' with
  | nil => exact h
  | cons e es ih =>
    simp only [List.mem_cons, forall_eq_or_imp] at hes
    refine ih ?_ hes.2
    rw [← step_observed b _ hes.1, h, step_observed b' _ hes.1]

/-! ## 答える操作 -/

section Answers

variable {now : Time} (hnow : 0 < now)
include hnow

theorem lookup_ignoresExpired (r : Nat) (name : GoString) (reply : Option (List Stat)) :
    IgnoresExpired (·.lookup r name now reply) :=
  .of_eq (lookup_observed hnow · r name reply)

theorem readdir_ignoresExpired (r : Nat) (reply : Option (List Stat)) :
    IgnoresExpired (·.readdir r now reply) :=
  .of_eq (readdir_observed hnow · r reply)

theorem getattr_ignoresExpired (r : Nat) (parentReply : Option (List Stat)) (statReply : Option Stat) :
    IgnoresExpired (·.getattr r now parentReply statReply) :=
  .of_eq fun b => by
    simp only [getattr, observed_dirs, Dir.observed_path]
    exact getattrAt_observed hnow b _ _ (oldGetattr_observed · r now statReply)

theorem fileGetattr_ignoresExpired (f : FileNode) (parentReply : Option (List Stat)) (statReply : Option Stat) :
    IgnoresExpired (·.fileGetattr f now parentReply statReply) :=
  .of_eq fun b => getattrAt_observed hnow b _ _ (fileOldGetattr_observed · f statReply)

end Answers

/-! ## 期限が 0 の内容は置き換えてもよい -/

theorem setDir_self (b : Bridge) (r : Nat) : b.setDir r (b.dirs r) = b := by
  simp [setDir]

/-- 期限が 0 の `Dir` の内容のキャッシュを何に置き換えても、見えるところは変わらない。 -/
theorem observed_setDir_expired {b : Bridge} {r : Nat} (h : (b.dirs r).dirTTL = 0) (c : Option (List Stat)) :
    (b.setDir r { b.dirs r with dirCache := c }).observed = b.observed := by
  have hd : ({ b.dirs r with dirCache := c } : Dir).observed = b.observed.dirs r := by
    simp [Dir.observed, h]
  rw [observed_setDir, hd, setDir_self]

theorem create_dirTTL (b : Bridge) (r : Nat) (name : GoString) (mode : UInt32) :
    ((b.create r name mode true).1.dirs r).dirTTL = 0 := by
  simp [create, setDir, send]

theorem mkdir_dirTTL (b : Bridge) (r : Nat) (name : GoString) (mode : UInt32) :
    ((b.mkdir r name mode true).1.dirs r).dirTTL = 0 := by
  simp only [mkdir, setDir, send, newDir, dirPut, if_true, Function.update_apply]
  split_ifs <;> rfl

theorem removeEntry_dirTTL (b : Bridge) (r : Nat) (name : GoString) :
    ((b.removeEntry r name true).1.dirs r).dirTTL = 0 := by
  simp [removeEntry, setDir, send]

theorem rename_dirTTL (b : Bridge) (r : Nat) (name newName : GoString) :
    ((b.rename r name (some r) newName true).1.dirs r).dirTTL = 0 := by
  simp [rename, setDir, send]

/-! ## 期限が 0 なら読み直す -/

section Refetch

variable {b : Bridge} {r : Nat} (h0 : (b.dirs r).dirTTL = 0) {now : Time} (hnow : 0 < now)
include h0 hnow

/-- 期限が 0 の `Dir` の内容は、0 より後の時刻にはいつもサーバから読み直す。 -/
theorem fillDirCache_sent_of_expired (reply : Option (List Stat)) :
    (b.fillDirCache r now reply).1.sent = b.sent ++ [.readdir (b.dirs r).path] := by
  have hexp : now > (b.dirs r).dirTTL := h0 ▸ hnow
  simp only [fillDirCache, hexp, or_true, if_true]
  cases reply <;> rfl

/-- 期限が 0 の `Dir` の `Readdir` は、サーバの今の一覧をそのまま答える。 -/
theorem readdir_of_expired (reply : Option (List Stat)) :
    (b.readdir r now reply).1.sent = b.sent ++ [.readdir (b.dirs r).path] ∧
      (b.readdir r now reply).2 = match reply with
        | none => .error .epipe
        | some stats => .ok (stats.map fun stat => ⟨stat.name, if stat.mode &&& dmdir > 0 then sIFDIR else 0⟩) := by
  have hexp : now > (b.dirs r).dirTTL := h0 ▸ hnow
  simp only [readdir, fillDirCache, hexp, or_true, if_true]
  cases reply <;> simp [setDir, send]

end Refetch

end Bridge

end Go9p
