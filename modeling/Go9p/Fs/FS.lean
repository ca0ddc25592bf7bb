import Go9p.Fs.Node
import Mathlib.Data.Nat.Bitwise

/-!
# ファイルシステムの木と Qid の割り当て

`src/` の `FS`, `NewFS`, `NewQid`, `NewStat`, `Option`。`FS` の `Lock` のもとで、`NewQid` は次の番号を
渡してから一つ進める。並行する呼び出しは錠で一つずつ行われるので、呼び出しの列として表す。

`NewStaticDir` は `src/` にない。根のディレクトリは、それを作った `Stat` で表す。`CreateFile` などの
フックは `src/` の中で呼ばれないので置かない。
-/

namespace Go9p

/-- `FS`。根のディレクトリと、次に割り当てる識別子 `uid`。 -/
structure FS where
  root : Option Stat
  uid : UInt64
deriving DecidableEq, Repr

/-- `uint32(t.Unix())`。秒数の下位 32 ビット。 -/
def unixToUInt32 (t : Int) : UInt32 := .ofNat (t % 4294967296).toNat

/-! ## 割り当て -/

/-- `NewQid`。今の `uid` を渡し、`uid` を一つ進める（64 ビットで回る）。 -/
def FS.newQid (fs : FS) (statMode : UInt32) : Qid × FS :=
  (⟨(statMode >>> 24).toUInt8, 0, fs.uid⟩, { fs with uid := fs.uid + 1 })

/-- `NewStat`。Qid を割り当て、時刻は二度読んだ `time.Now()` の秒数。 -/
def FS.newStat (fs : FS) (name uid gid : GoString) (mode : UInt32) (atime mtime : Int) : Stat × FS :=
  let (qid, fs) := fs.newQid mode
  (⟨0, 0, qid, mode, unixToUInt32 atime, unixToUInt32 mtime, 0, name, uid, gid, uid⟩, fs)

/-- `FS` への一つの呼び出し。 -/
inductive Call
  | newQid (statMode : UInt32)
  | newStat (name uid gid : GoString) (mode : UInt32) (atime mtime : Int)
deriving DecidableEq, Repr

/-- 一つの呼び出しが割り当てた Qid と、その後の `FS`。 -/
def FS.call (fs : FS) : Call → Qid × FS
  | .newQid m => fs.newQid m
  | .newStat name uid gid mode atime mtime =>
    let (st, fs) := fs.newStat name uid gid mode atime mtime
    (st.qid, fs)

/-- 呼び出しを順に行い、割り当てた Qid を順に並べる。 -/
def FS.run (fs : FS) : List Call → List Qid × FS
  | [] => ([], fs)
  | c :: cs =>
    let (q, fs₁) := fs.call c
    let (qs, fs₂) := fs₁.run cs
    (q :: qs, fs₂)

end Go9p
