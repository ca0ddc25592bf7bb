import Go9p.Proto.Types

/-!
# 開く権限の判定

`src/` の `userInGroup`, `userRelation`, `omodePermits`, `openPermission`（仕様書 4.2 節）。
開くモードの定数（`Oread` など）と `File` は `src/` にない。
-/

namespace Go9p

/-! ## 定数と型 -/

/-- `ugo_user`。 -/
def ugoUser : UInt8 := 0
/-- `ugo_group`。 -/
def ugoGroup : UInt8 := 1
/-- `ugo_other`。 -/
def ugoOther : UInt8 := 2

/-- Modelled from the spec: `Oread`。開くモードの下位 4 ビットで、読みは 0。 -/
def oread : UInt8 := 0
/-- Modelled from the spec: `Owrite`。書きは 1。 -/
def owrite : UInt8 := 1
/-- Modelled from the spec: `Ordwr`。読み書きは 2。 -/
def ordwr : UInt8 := 2
/-- Modelled from the spec: `Oexec`。実行は 3。 -/
def oexec : UInt8 := 3

/-- Modelled from the spec: `File`。`openPermission` が読むのは `Stat` だけである。 -/
structure File where
  stat : Stat
deriving DecidableEq, Repr

/-! ## 判定 -/

/-- `userInGroup`。今のところ、グループと利用者は同じものとみなす。 -/
def userInGroup (user group : GoString) : Bool := user == group

/-- `userRelation`。 -/
def userRelation (user : GoString) (file : File) : UInt8 :=
  if user = file.stat.uid then ugoUser
  else if userInGroup user file.stat.gid then ugoGroup
  else ugoOther

/-- `omodePermits`。`noneMode` は定数 `None` の値で、`src/` にない。`switch` の各 `case` を順に試す。 -/
def omodePermits (noneMode perm omode : UInt8) : Bool :=
  if omode = oread then perm &&& 0x4 != 0
  else if omode = owrite then perm &&& 0x2 != 0
  else if omode = ordwr then perm &&& 0x06 != 0
  else if omode = oexec then perm &&& 0x01 != 0
  else if omode = noneMode then false
  else false

/-- `openPermission`。モードの 32 ビットから、要求者の立場の 3 ビットを `uint8` に切り出して渡す。 -/
def openPermission (noneMode : UInt8) (user : GoString) (file : File) (omode : UInt8) : Bool :=
  let rel := userRelation user file
  if rel = ugoUser then omodePermits noneMode ((file.stat.mode >>> 6).toUInt8 &&& 0x07) omode
  else if rel = ugoGroup then omodePermits noneMode ((file.stat.mode >>> 3).toUInt8 &&& 0x07) omode
  else if rel = ugoOther then omodePermits noneMode (file.stat.mode.toUInt8 &&& 0x07) omode
  else false

/-! ## 仕様書の規則 -/

/-- 要求者の立場で選ばれる、モードの 3 ビットの区画。所有者、グループ、その他の順に比べる。 -/
def segment (user : GoString) (file : File) : UInt32 :=
  if user = file.stat.uid then (file.stat.mode >>> 6) &&& 7
  else if user = file.stat.gid then (file.stat.mode >>> 3) &&& 7
  else file.stat.mode &&& 7

/-- 開くモードが求めるビット。読みは 4、書きは 2、読み書きは両方の 6、実行は 1。ほかのモードは拒む。 -/
def requiredBits (omode : UInt8) : Option UInt32 :=
  if omode = oread then some 4
  else if omode = owrite then some 2
  else if omode = ordwr then some 6
  else if omode = oexec then some 1
  else none

/-! ## 3 ビットの区画 -/

theorem toUInt8_and_seven (x : UInt32) : x.toUInt8 &&& 7 = UInt8.ofNat (x.toNat % 8) := by
  apply UInt8.ext
  rw [UInt8.and_toNat, UInt32.toUInt8_toNat, UInt8.toNat_ofNat_mod]
  show x.toNat % 2 ^ 8 &&& 2 ^ 3 - 1 = _
  rw [Nat.and_pow_two_sub_one_eq_mod]
  omega

theorem and_seven (x : UInt32) : x &&& 7 = UInt32.ofNat (x.toNat % 8) := by
  apply UInt32.ext
  rw [UInt32.and_toNat, UInt32.toNat_ofNat_mod]
  show x.toNat &&& 2 ^ 3 - 1 = _
  rw [Nat.and_pow_two_sub_one_eq_mod]
  omega

/-- `omodePermits` に区画 `x & 7` を渡したときの答え。読み書きはどちらかのビットがあれば許す。 -/
theorem omodePermits_iff (noneMode : UInt8) (x : UInt32) (omode : UInt8) :
    omodePermits noneMode (x.toUInt8 &&& 7) omode = true ↔
      (omode = oread ∧ x &&& 7 &&& 4 = 4) ∨ (omode = owrite ∧ x &&& 7 &&& 2 = 2) ∨
      (omode = ordwr ∧ x &&& 7 &&& 6 ≠ 0) ∨ (omode = oexec ∧ x &&& 7 &&& 1 = 1) := by
  have hs : x.toNat % 8 < 8 := Nat.mod_lt _ (by decide)
  rw [toUInt8_and_seven, and_seven]
  generalize x.toNat % 8 = s at hs
  unfold omodePermits
  by_cases h₁ : omode = oread
  · subst h₁; rw [if_pos rfl]; revert s; decide
  by_cases h₂ : omode = owrite
  · subst h₂; rw [if_neg (by decide), if_pos rfl]; revert s; decide
  by_cases h₃ : omode = ordwr
  · subst h₃; rw [if_neg (by decide), if_neg (by decide), if_pos rfl]; revert s; decide
  by_cases h₄ : omode = oexec
  · subst h₄; rw [if_neg (by decide), if_neg (by decide), if_neg (by decide), if_pos rfl]
    revert s; decide
  simp [h₁, h₂, h₃, h₄]

/-! ## `openPermission` の答え -/

/-- `openPermission` は `segment` の区画を調べる。読み書きは、読みと書きのどちらかのビットがあれば許す。 -/
theorem openPermission_iff (noneMode : UInt8) (user : GoString) (file : File) (omode : UInt8) :
    openPermission noneMode user file omode = true ↔
      (omode = oread ∧ segment user file &&& 4 = 4) ∨ (omode = owrite ∧ segment user file &&& 2 = 2) ∨
      (omode = ordwr ∧ segment user file &&& 6 ≠ 0) ∨ (omode = oexec ∧ segment user file &&& 1 = 1) := by
  by_cases hu : user = file.stat.uid
  · have hr : userRelation user file = ugoUser := if_pos hu
    have hs : segment user file = file.stat.mode >>> 6 &&& 7 := if_pos hu
    simp only [openPermission, hr, hs, if_true]
    exact omodePermits_iff ..
  by_cases hg : user = file.stat.gid
  · have hr : userRelation user file = ugoGroup := by
      rw [userRelation, if_neg hu, if_pos (show userInGroup user _ = true from beq_iff_eq.mpr hg)]
    have hs : segment user file = file.stat.mode >>> 3 &&& 7 := by rw [segment, if_neg hu, if_pos hg]
    simp only [openPermission, hr, hs, if_true, show ugoGroup ≠ ugoUser by decide, if_false]
    exact omodePermits_iff ..
  · have hr : userRelation user file = ugoOther := by simp [userRelation, userInGroup, hu, hg]
    have hs : segment user file = file.stat.mode &&& 7 := by simp [segment, hu, hg]
    simp only [openPermission, hr, hs, if_true, show ugoOther ≠ ugoUser by decide,
      show ugoOther ≠ ugoGroup by decide, if_false]
    exact omodePermits_iff ..

/-- 読み、書き、読み書き、実行のどれでもないモードは、どの利用者にもどのファイルにも許されない。 -/
theorem openPermission_eq_false_of_requiredBits (noneMode : UInt8) (user : GoString) (file : File)
    {omode : UInt8} (h : requiredBits omode = none) : openPermission noneMode user file omode = false := by
  rw [← Bool.not_eq_true, openPermission_iff]
  rintro (⟨rfl, -⟩ | ⟨rfl, -⟩ | ⟨rfl, -⟩ | ⟨rfl, -⟩) <;> exact absurd h (by decide)

/-- 読み書きのほかのモードでは、`openPermission` は仕様書の規則のとおりに答える。 -/
theorem openPermission_eq_rule_of_ne_ordwr (noneMode : UInt8) (user : GoString) (file : File)
    (omode : UInt8) (h : omode ≠ ordwr) :
    openPermission noneMode user file omode = true ↔
      ∃ req, requiredBits omode = some req ∧ segment user file &&& req = req := by
  rw [openPermission_iff]
  unfold requiredBits
  by_cases h₁ : omode = oread
  · subst h₁; simp [show oread ≠ owrite by decide, show oread ≠ ordwr by decide,
      show oread ≠ oexec by decide]
  by_cases h₂ : omode = owrite
  · subst h₂; simp [h₁, show owrite ≠ ordwr by decide, show owrite ≠ oexec by decide]
  by_cases h₄ : omode = oexec
  · subst h₄; simp [h₁, h₂, h]
  · simp [h₁, h₂, h, h₄]

/-- 所有者の区画が読みだけのファイルを、所有者が読みで開く。 -/
theorem openPermission_eq_rule_owner_read :
    oread ≠ ordwr ∧
      (openPermission 4 [103] ⟨⟨0, 0, ⟨0, 0, 0⟩, 0o400, 0, 0, 0, [], [103], [], []⟩⟩ oread = true ↔
        ∃ req, requiredBits oread = some req ∧
          segment [103] ⟨⟨0, 0, ⟨0, 0, 0⟩, 0o400, 0, 0, 0, [], [103], [], []⟩⟩ &&& req = req) :=
  ⟨by decide, openPermission_eq_rule_of_ne_ordwr 4 [103] _ oread (by decide)⟩

/-- 所有者の区画に書きのビットだけがあるファイルを、所有者が読み書きで開くことを許す。規則は読みの
ビットも求める。 -/
theorem openPermission_ordwr_grants_write_only (noneMode : UInt8) :
    openPermission noneMode [103] ⟨⟨0, 0, ⟨0, 0, 0⟩, 0o200, 0, 0, 0, [], [103], [], []⟩⟩ ordwr = true ∧
      requiredBits ordwr = some 6 ∧
      segment [103] ⟨⟨0, 0, ⟨0, 0, 0⟩, 0o200, 0, 0, 0, [], [103], [], []⟩⟩ &&& 6 ≠ 6 :=
  ⟨rfl, rfl, by decide⟩

end Go9p
