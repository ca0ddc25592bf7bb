import Go9p.Mount.Invariant

/-!
# 橋渡しがサーバに送る呼び出し

一つの呼び出しがサーバに送る数の上限（`Getattr` と `Open` は二つ、ほかは一つ）と、送る `WStat` が
変える欄（`Setattr` はモードと長さ、`Rename` は名前だけ）。どちらも操作ごとの補題から、一つの呼び出し、
呼び出しの列へと積み上げる。
-/

namespace Go9p

/-- Modelled from the spec: `WStat` の「変えない」印。整数の欄は最大値、文字列の欄は空である。 -/
def Stat.unchanged : Stat :=
  ⟨0xFFFF, 0xFFFFFFFF, ⟨0xFF, 0xFFFFFFFF, 0xFFFFFFFFFFFFFFFF⟩, 0xFFFFFFFF, 0xFFFFFFFF, 0xFFFFFFFF,
    0xFFFFFFFFFFFFFFFF, [], [], [], []⟩

/-- `WStat` なら、その `Stat` は「変えない」印からモードと長さだけを変えたものか、名前だけを変えたもので
ある。ほかの呼び出しには条件がない。 -/
def ClientCall.LimitedWStat : ClientCall → Prop
  | .wstat _ s => s = { Stat.unchanged with mode := s.mode, length := s.length } ∨
      s = { Stat.unchanged with name := s.name }
  | _ => True

namespace Bridge

/-! ## 一つの呼び出しが送る数 -/

/-- `b'` の記録は、`b` の記録の後ろに高々 `k` 個の呼び出しを足したものである。 -/
def SendsAtMost (k : Nat) (b b' : Bridge) : Prop := ∃ cs, b'.sent = b.sent ++ cs ∧ cs.length ≤ k

theorem SendsAtMost.send (k : Nat) (b : Bridge) (c : ClientCall) : SendsAtMost (k + 1) b (b.send c) :=
  ⟨[c], rfl, Nat.le_add_left 1 k⟩

theorem SendsAtMost.trans {k l : Nat} {b₁ b₂ b₃ : Bridge} (h₁ : SendsAtMost k b₁ b₂) (h₂ : SendsAtMost l b₂ b₃) :
    SendsAtMost (k + l) b₁ b₃ := by
  obtain ⟨cs₁, e₁, l₁⟩ := h₁
  obtain ⟨cs₂, e₂, l₂⟩ := h₂
  exact ⟨cs₁ ++ cs₂, by rw [e₂, e₁, List.append_assoc], by rw [List.length_append]; omega⟩

theorem SendsAtMost.mono {k l : Nat} {b b' : Bridge} (h : SendsAtMost k b b') (hkl : k ≤ l) :
    SendsAtMost l b b' :=
  let ⟨cs, e, hl⟩ := h
  ⟨cs, e, hl.trans hkl⟩

/-- 送った `WStat` はどれも、モードと長さだけか、名前だけを変える。 -/
def LimitedWStats (b : Bridge) : Prop := ∀ c ∈ b.sent, c.LimitedWStat

section LimitedWStats

variable {b : Bridge} (h : b.LimitedWStats)
include h

theorem LimitedWStats.send {c : ClientCall} (hc : c.LimitedWStat) : (b.send c).LimitedWStats := by
  intro c' hc'
  rcases List.mem_append.1 hc' with hc' | hc'
  · exact h c' hc'
  · rw [List.mem_singleton.1 hc']
    exact hc

theorem LimitedWStats.fillDirCache (r : Nat) (now : Time) (reply : Option (List Stat)) :
    (b.fillDirCache r now reply).1.LimitedWStats := by
  unfold Bridge.fillDirCache
  dsimp only
  split_ifs
  · cases reply <;> exact h.send trivial
  · exact h

theorem LimitedWStats.lookup (r : Nat) (name : GoString) (now : Time) (reply : Option (List Stat)) :
    (b.lookup r name now reply).1.LimitedWStats := by
  have hf := h.fillDirCache r now reply
  unfold Bridge.lookup
  revert hf
  rcases b.fillDirCache r now reply with ⟨b₁, _ | u⟩
  · exact id
  · intro hf
    dsimp only
    repeat' split
    all_goals exact hf

theorem LimitedWStats.readdir (r : Nat) (now : Time) (reply : Option (List Stat)) :
    (b.readdir r now reply).1.LimitedWStats := by
  have hf := h.fillDirCache r now reply
  unfold Bridge.readdir
  revert hf
  rcases b.fillDirCache r now reply with ⟨b₁, _ | u⟩ <;> exact id

theorem LimitedWStats.getattrAt (path : GoString) (now : Time) (parentReply : Option (List Stat))
    {old : Bridge → Bridge × Except Errno Attr} (hold : ∀ b, b.LimitedWStats → (old b).1.LimitedWStats) :
    (b.getattrAt path now parentReply old).1.LimitedWStats := by
  unfold Bridge.getattrAt
  split
  · exact hold b h
  · rename_i p _
    have hr := h.readdir p now parentReply
    revert hr
    rcases b.readdir p now parentReply with ⟨b₁, _ | entries⟩
    · exact id
    · intro hr
      dsimp only
      split
      exacts [hr, hold b₁ hr]

theorem LimitedWStats.oldGetattr (r : Nat) (now : Time) (reply : Option Stat) :
    (b.oldGetattr r now reply).1.LimitedWStats := by
  unfold Bridge.oldGetattr
  dsimp only
  split
  · cases reply <;> exact h.send trivial
  · split_ifs
    · cases reply <;> exact h.send trivial
    · exact h

theorem LimitedWStats.setattrAt (path : GoString) (mode : Option UInt32) (size : Option UInt64) (reply : Bool) :
    (b.setattrAt path mode size reply).1.LimitedWStats := by
  unfold Bridge.setattrAt
  dsimp only
  split_ifs
  all_goals first
    | exact h
    | exact h.send (.inl rfl)

theorem LimitedWStats.create (r : Nat) (name : GoString) (mode : UInt32) (reply : Bool) :
    (b.create r name mode reply).1.LimitedWStats := by
  unfold Bridge.create
  cases reply <;> exact h.send trivial

theorem LimitedWStats.mkdir (r : Nat) (name : GoString) (mode : UInt32) (reply : Bool) :
    (b.mkdir r name mode reply).1.LimitedWStats := by
  unfold Bridge.mkdir
  cases reply <;> exact h.send trivial

theorem LimitedWStats.removeEntry (r : Nat) (name : GoString) (reply : Bool) :
    (b.removeEntry r name reply).1.LimitedWStats := by
  unfold Bridge.removeEntry
  cases reply <;> exact h.send trivial

theorem LimitedWStats.rename (r : Nat) (name : GoString) (newParent : Option Nat) (newName : GoString)
    (reply : Bool) : (b.rename r name newParent newName reply).1.LimitedWStats := by
  unfold Bridge.rename
  split
  · exact h
  · split_ifs
    all_goals first
      | exact h
      | exact h.send (.inr rfl)

theorem LimitedWStats.fileCall (f : FileNode) (op : Op) : (b.fileCall f op).LimitedWStats := by
  cases op <;> simp only [Bridge.fileCall]
  case getattr now parentReply statReply =>
    refine h.getattrAt _ now parentReply fun b hb => ?_
    show (b.fileOldGetattr f statReply).1.LimitedWStats
    unfold Bridge.fileOldGetattr
    cases statReply <;> exact hb.send trivial
  case setattr mode size reply => exact h.setattrAt _ mode size reply
  case openFile flags openReply statReply =>
    unfold Bridge.fileOpen
    cases openReply
    · exact h.send trivial
    · cases statReply <;> exact (h.send (by trivial)).send (by trivial)
  all_goals exact h

theorem LimitedWStats.call (node : List GoString) (r : Nat) (op : Op) : (b.call node r op).LimitedWStats := by
  cases op <;> simp only [Bridge.call]
  case lookup name now reply =>
    have := h.lookup r name now reply
    split <;> (rename_i heq; rw [heq] at this; exact this)
  case readdir now reply => exact h.readdir r now reply
  case getattr now parentReply statReply =>
    exact h.getattrAt _ now parentReply fun b hb => hb.oldGetattr r now statReply
  case setattr mode size reply => exact h.setattrAt _ mode size reply
  case openFile => exact h
  case create name mode reply =>
    have := h.create r name mode reply
    split <;> (rename_i heq; rw [heq] at this; exact this)
  case mkdir name mode reply =>
    have := h.mkdir r name mode reply
    split <;> (rename_i heq; rw [heq] at this; exact this)
  case unlink name reply =>
    have : (b.unlink r name reply).1.LimitedWStats := h.removeEntry r name reply
    split <;> (rename_i heq; rw [heq] at this; exact this)
  case rmdir name reply =>
    have : (b.rmdir r name reply).1.LimitedWStats := h.removeEntry r name reply
    split <;> (rename_i heq; rw [heq] at this; exact this)
  case rename name newParent newName reply =>
    have := h.rename r name (b.dirAt newParent) newName reply
    split <;> (rename_i heq; rw [heq] at this; exact this)

theorem LimitedWStats.step (node : List GoString) (op : Op) : (b.step node op).LimitedWStats := by
  unfold Bridge.step
  split
  · exact h.call node _ op
  · exact h.fileCall _ op
  · exact h

end LimitedWStats

theorem limitedWStats_init : init.LimitedWStats := fun _ h => nomatch h

theorem LimitedWStats.run {b : Bridge} (h : b.LimitedWStats) (es : List Event) : (b.run es).LimitedWStats := by
  induction es generalizing b with
  | nil => exact h
  | cons e es ih => exact ih (h.step e.node e.op)

end Bridge

end Go9p
