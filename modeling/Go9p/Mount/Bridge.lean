import Go9p.Path
import Go9p.Perm

/-!
# FUSE への橋渡し（`mount9p`）

`src/` の `main` パッケージの `Dir` の操作（`Lookup`, `Readdir`, `Getattr`, `Setattr`, `Create`, `Mkdir`,
`Unlink`, `Rmdir`, `Rename`）、`FileNode` の操作（`Open`, `Getattr`, `Setattr`）と、大域の `dirCache`。
9P のサーバとの遣り取りは `client.Client` を通すので、サーバの答えは操作の引数として受け取り、送った
呼び出しは `sent` に記録する。時刻も引数で受け取る。

開いたファイル（`File`）の読み書きと、`main` の引数の処理は置かない。
-/

namespace Go9p

/-- 時刻（ナノ秒）。`time.Time{}` は 0 である。 -/
abbrev Time := Nat

/-- `DefaultTTL`。5 秒。 -/
def defaultTTL : Time := 5000000000

/-- `fuse.S_IFDIR`。 -/
def sIFDIR : UInt32 := 0o040000

/-- `fuse.FOPEN_DIRECT_IO`。 -/
def fopenDirectIO : UInt32 := 1

/-- `os.O_RDONLY`（Linux）。 -/
def osORdonly : UInt32 := 0
/-- `os.O_WRONLY`（Linux）。 -/
def osOWronly : UInt32 := 1
/-- `os.O_RDWR`（Linux）。 -/
def osORdwr : UInt32 := 2
/-- `os.O_TRUNC`（Linux）。 -/
def osOTrunc : UInt32 := 0x200

/-- Modelled from the spec: `Otrunc`。開くモードの、下位 4 ビットとは別の切り詰めの印（9P の 0x10）。 -/
def otrunc : UInt8 := 0x10

/-- `convertFlag`。開くときの `flags` の下位 4 ビットを 9P の開くモードに写し、`O_TRUNC` があれば
`Otrunc` を足す。どの `case` にも合わなければゼロ値の 0 のままである。 -/
def convertFlag (mode : UInt32) : UInt8 :=
  let m : UInt8 :=
    if mode &&& 0x0F = osORdonly then oread
    else if mode &&& 0x0F = osOWronly then owrite
    else if mode &&& 0x0F = osORdwr then ordwr
    else 0
  if mode &&& osOTrunc > 0 then m ||| otrunc else m

/-- 橋渡しが返す `syscall.Errno`。 -/
inductive Errno
  | einval
  | enoent
  | epipe
deriving DecidableEq, Repr

/-- `client.Client` への呼び出し。引数の路と、`Open` のモード、`Create` の権限、`WStat` の `Stat`。
`Open` は Lean の予約語なので `openFile` と書く。 -/
inductive ClientCall
  | readdir (path : GoString)
  | stat (path : GoString)
  | openFile (path : GoString) (mode : UInt8)
  | create (path : GoString) (perm : UInt32)
  | remove (path : GoString)
  | wstat (path : GoString) (stat : Stat)
deriving DecidableEq, Repr

/-- `Dir`。サーバの路と、属性とディレクトリの内容のキャッシュ。 -/
structure Dir where
  path : GoString
  statCache : Option Stat
  statTTL : Time
  dirCache : Option (List Stat)
  dirTTL : Time
deriving DecidableEq, Repr

/-- `&Dir{client: c, path: p}`。キャッシュは空で、期限は `time.Time{}`。 -/
def Dir.new (path : GoString) : Dir := ⟨path, none, 0, none, 0⟩

/-- `FileNode`。サーバの路だけを持つ。 -/
structure FileNode where
  path : GoString
deriving DecidableEq, Repr

/-- カーネルに見える節点が持つもの。`Dir` は参照で持ち、`FileNode` は値で持つ。 -/
inductive Node
  | dir (ref : Nat)
  | file (f : FileNode)
deriving DecidableEq, Repr

/-- カーネルへ返す属性。`Ino`, `Mode`, `Size`, `Mtime`。 -/
structure Attr where
  ino : UInt64
  mode : UInt32
  size : UInt64
  mtime : UInt64
deriving DecidableEq, Repr

/-- `Stat` から写す属性。 -/
def Attr.ofStat (stat : Stat) : Attr := ⟨stat.qid.uid, stat.mode, stat.length, stat.mtime.toUInt64⟩

/-- `Readdir` が返す項目。ディレクトリには `S_IFDIR` が付く。 -/
structure DirEntry where
  name : GoString
  mode : UInt32
deriving DecidableEq, Repr

/-- 橋渡しの状態。`Dir` の置き場と次の空き、大域の `dirCache`、カーネルに見える節点の木（根からの
名前の列で引く）、送った呼び出しの記録。 -/
structure Bridge where
  dirs : Nat → Dir
  next : Nat
  dirCache : GoString → Option Nat
  tree : List GoString → Option Node
  sent : List ClientCall

namespace Bridge

/-- `main` が作る状態。根の `Dir` の路は `"/"` で、`dirPut("/", root)` をしてから根として置く。 -/
def init : Bridge where
  dirs := fun _ => Dir.new [slash]
  next := 1
  dirCache := fun p => if p = [slash] then some 0 else none
  tree := fun q => if q = [] then some (.dir 0) else none
  sent := []

/-! ## 状態の小さな操作 -/

/-- `dirGet`。 -/
def dirGet (b : Bridge) (path : GoString) : Option Nat := b.dirCache path

/-- `dirPut`。 -/
def dirPut (b : Bridge) (path : GoString) (d : Nat) : Bridge :=
  { b with dirCache := Function.update b.dirCache path (some d) }

/-- 新しい `Dir` を置く。 -/
def newDir (b : Bridge) (path : GoString) : Nat × Bridge :=
  (b.next, { b with dirs := Function.update b.dirs b.next (Dir.new path), next := b.next + 1 })

/-- `Dir` の欄を書き換える。 -/
def setDir (b : Bridge) (r : Nat) (d : Dir) : Bridge := { b with dirs := Function.update b.dirs r d }

/-- サーバへの呼び出しを記録する。 -/
def send (b : Bridge) (c : ClientCall) : Bridge := { b with sent := b.sent ++ [c] }

/-- 節点が指すサーバの路。 -/
def nodePath (b : Bridge) : Node → GoString
  | .dir d => (b.dirs d).path
  | .file f => f.path

/-! ## `Dir` の操作

どの操作も、その後の状態と、結果または `Errno` を返す。
-/

/-- `Lookup` と `Readdir` の前半。内容のキャッシュがないか期限が過ぎていれば、サーバから読み直す。 -/
def fillDirCache (b : Bridge) (r : Nat) (now : Time) (reply : Option (List Stat)) :
    Bridge × Except Errno Unit :=
  let d := b.dirs r
  if d.dirCache = none ∨ now > d.dirTTL then
    let b := b.send (.readdir d.path)
    match reply with
    | none => (b, .error .epipe)
    | some stats => (b.setDir r { d with dirCache := some stats, dirTTL := now + defaultTTL }, .ok ())
  else (b, .ok ())

/-- `Lookup`。キャッシュの中から名前の合う `Stat` を探し、ディレクトリなら `dirCache` の `Dir` を使うか
新しく作って `dirPut` し、そうでなければ新しい `FileNode` を返す。 -/
def lookup (b : Bridge) (r : Nat) (name : GoString) (now : Time) (reply : Option (List Stat)) :
    Bridge × Except Errno (Node × Attr) :=
  match b.fillDirCache r now reply with
  | (b, .error e) => (b, .error e)
  | (b, .ok ()) =>
    match ((b.dirs r).dirCache.getD []).find? (·.name = name) with
    | none => (b, .error .enoent)
    | some stat =>
      let fullPath := join [(b.dirs r).path, name]
      if stat.mode &&& dmdir > 0 then
        match b.dirGet fullPath with
        | some d => (b, .ok (.dir d, .ofStat stat))
        | none =>
          let (d, b) := b.newDir fullPath
          (b.dirPut fullPath d, .ok (.dir d, .ofStat stat))
      else (b, .ok (.file ⟨fullPath⟩, .ofStat stat))

/-- `Readdir`。キャッシュの `Stat` ごとに、名前とディレクトリかどうかを返す。 -/
def readdir (b : Bridge) (r : Nat) (now : Time) (reply : Option (List Stat)) :
    Bridge × Except Errno (List DirEntry) :=
  match b.fillDirCache r now reply with
  | (b, .error e) => (b, .error e)
  | (b, .ok ()) =>
    (b, .ok (((b.dirs r).dirCache.getD []).map fun stat =>
      ⟨stat.name, if stat.mode &&& dmdir > 0 then sIFDIR else 0⟩))

/-- `oldGetattr`。属性のキャッシュがないか期限が過ぎていれば、サーバに `Stat` を求める。 -/
def oldGetattr (b : Bridge) (r : Nat) (now : Time) (reply : Option Stat) : Bridge × Except Errno Attr :=
  let d := b.dirs r
  let fetch : Bridge × Except Errno Attr :=
    let b := b.send (.stat d.path)
    match reply with
    | none => (b, .error .enoent)
    | some stat =>
      (b.setDir r { d with statCache := some stat, statTTL := now + defaultTTL }, .ok (.ofStat stat))
  match d.statCache with
  | none => fetch
  | some stat => if now > d.statTTL then fetch else (b, .ok (.ofStat stat))

/-- `Dir.Getattr` と `FileNode.Getattr` に共通の本体。路 `path` の親の路の `Dir` が `dirCache` にあれば、
その `Readdir` の中から `path` の最後の名前を探す。`dirCache` にないか、見つからなければ `old`
（それぞれの `oldGetattr`）に任せる。 -/
def getattrAt (b : Bridge) (path : GoString) (now : Time) (parentReply : Option (List Stat))
    (old : Bridge → Bridge × Except Errno Attr) : Bridge × Except Errno Attr :=
  match b.dirGet (pathDir path) with
  | none => old b
  | some p =>
    match b.readdir p now parentReply with
    | (b, .error e) => (b, .error e)
    | (b, .ok _) =>
      match ((b.dirs p).dirCache.getD []).find? (·.name = base path) with
      | some stat => (b, .ok (.ofStat stat))
      | none => old b

/-- `Dir.Getattr`。 -/
def getattr (b : Bridge) (r : Nat) (now : Time) (parentReply : Option (List Stat))
    (statReply : Option Stat) : Bridge × Except Errno Attr :=
  b.getattrAt (b.dirs r).path now parentReply fun b => b.oldGetattr r now statReply

/-- `Setattr` が送る `WStat` の `Stat`。与えられたモードと長さのほかは全て「変えない」印。 -/
def setattrStat (mode : Option UInt32) (size : Option UInt64) : Stat :=
  ⟨0xFFFF, 0xFFFFFFFF, ⟨255, 0xFFFFFFFF, 0xFFFFFFFFFFFFFFFF⟩, mode.getD 0xFFFFFFFF, 0xFFFFFFFF, 0xFFFFFFFF,
    size.getD 0xFFFFFFFFFFFFFFFF, [], [], [], []⟩

/-- `Dir.Setattr` と `FileNode.Setattr` に共通の本体。モードか長さが与えられたときだけ路 `path` に
`WStat` を送る。`out` にはその `Stat` のモード、長さ、更新時刻を書く。 -/
def setattrAt (b : Bridge) (path : GoString) (mode : Option UInt32) (size : Option UInt64) (reply : Bool) :
    Bridge × Except Errno (UInt32 × UInt64 × UInt64) :=
  let stat := setattrStat mode size
  let out := (stat.mode, stat.length, stat.mtime.toUInt64)
  if mode.isSome || size.isSome then
    let b := b.send (.wstat path stat)
    if reply then (b, .ok out) else (b, .error .enoent)
  else (b, .ok out)

/-- `Dir.Setattr`。 -/
def setattr (b : Bridge) (r : Nat) (mode : Option UInt32) (size : Option UInt64) (reply : Bool) :
    Bridge × Except Errno (UInt32 × UInt64 × UInt64) :=
  b.setattrAt (b.dirs r).path mode size reply

/-- `Create` と `Mkdir` がキャッシュの後ろに足す `Stat`。Qid は全て最大値、モードと名前だけを持つ。 -/
def entryStat (mode : UInt32) (name : GoString) : Stat :=
  ⟨0, 0, ⟨255, 0xFFFFFFFF, 0xFFFFFFFFFFFFFFFF⟩, mode, 0, 0, 0, name, [], [], []⟩

/-- `Create`。サーバにファイルを作り、キャッシュの期限を切って `Stat` を足し、新しい `FileNode` を返す。 -/
def create (b : Bridge) (r : Nat) (name : GoString) (mode : UInt32) (reply : Bool) :
    Bridge × Except Errno Node :=
  let d := b.dirs r
  let b := b.send (.create (join [d.path, name]) mode)
  if reply then
    let b := b.setDir r { d with dirTTL := 0, dirCache := some (d.dirCache.getD [] ++ [entryStat mode name]) }
    (b, .ok (.file ⟨join [d.path, name]⟩))
  else (b, .error .einval)

/-- `Mkdir`。サーバにディレクトリを作り、キャッシュの期限を切って `Stat` を足し、新しい `Dir` を
`dirPut` して返す。 -/
def mkdir (b : Bridge) (r : Nat) (name : GoString) (mode : UInt32) (reply : Bool) :
    Bridge × Except Errno Node :=
  let d := b.dirs r
  let fullPath := join [d.path, name]
  let b := b.send (.create fullPath (mode ||| dmdir))
  if reply then
    let b := b.setDir r
      { d with dirTTL := 0, dirCache := some (d.dirCache.getD [] ++ [entryStat (mode ||| dmdir) name]) }
    let (nd, b) := b.newDir fullPath
    (b.dirPut fullPath nd, .ok (.dir nd))
  else (b, .error .einval)

/-- `Unlink` と `Rmdir` に共通の本体。サーバで消し、キャッシュの期限を切る。 -/
def removeEntry (b : Bridge) (r : Nat) (name : GoString) (reply : Bool) : Bridge × Except Errno Unit :=
  let d := b.dirs r
  let b := b.send (.remove (join [d.path, name]))
  if reply then (b.setDir r { d with dirTTL := 0 }, .ok ()) else (b, .error .einval)

/-- `Unlink`。 -/
def unlink (b : Bridge) (r : Nat) (name : GoString) (reply : Bool) : Bridge × Except Errno Unit :=
  b.removeEntry r name reply

/-- `Rmdir`。 -/
def rmdir (b : Bridge) (r : Nat) (name : GoString) (reply : Bool) : Bridge × Except Errno Unit :=
  b.removeEntry r name reply

/-- `Rename` が送る `WStat` の `Stat`。名前のほかは全て「変えない」印。 -/
def renameStat (newName : GoString) : Stat :=
  ⟨0xFFFF, 0xFFFFFFFF, ⟨255, 0xFFFFFFFF, 0xFFFFFFFFFFFFFFFF⟩, 0xFFFFFFFF, 0xFFFFFFFF, 0xFFFFFFFF,
    0xFFFFFFFFFFFFFFFF, newName, [], [], []⟩

/-- `Rename`。新しい親が `Dir` でないか、`r` と別の `Dir` なら `EINVAL`。そうでなければサーバに名前を
変える `WStat` を送り、キャッシュの期限を切る。 -/
def rename (b : Bridge) (r : Nat) (name : GoString) (newParent : Option Nat) (newName : GoString)
    (reply : Bool) : Bridge × Except Errno Unit :=
  match newParent with
  | none => (b, .error .einval)
  | some newD =>
    if r ≠ newD then (b, .error .einval)
    else
      let d := b.dirs r
      let b := b.send (.wstat (join [d.path, name]) (renameStat newName))
      if reply then (b.setDir r { d with dirTTL := 0 }, .ok ()) else (b, .error .enoent)

/-! ## `FileNode` の操作 -/

/-- `FileNode.Open`。サーバでファイルを開き、続けて `Stat` を求める。長さが 0 なら `FOPEN_DIRECT_IO` を
返す。 -/
def fileOpen (b : Bridge) (f : FileNode) (flags : UInt32) (openReply : Bool) (statReply : Option Stat) :
    Bridge × Except Errno UInt32 :=
  let b := b.send (.openFile f.path (convertFlag flags))
  if openReply then
    let b := b.send (.stat f.path)
    match statReply with
    | none => (b, .error .enoent)
    | some stat => (b, .ok (if stat.length = 0 then fopenDirectIO else 0))
  else (b, .error .einval)

/-- `FileNode.oldGetattr`。キャッシュを持たず、いつもサーバに `Stat` を求める。 -/
def fileOldGetattr (b : Bridge) (f : FileNode) (reply : Option Stat) : Bridge × Except Errno Attr :=
  let b := b.send (.stat f.path)
  match reply with
  | none => (b, .error .enoent)
  | some stat => (b, .ok (.ofStat stat))

/-- `FileNode.Getattr`。 -/
def fileGetattr (b : Bridge) (f : FileNode) (now : Time) (parentReply : Option (List Stat))
    (statReply : Option Stat) : Bridge × Except Errno Attr :=
  b.getattrAt f.path now parentReply fun b => b.fileOldGetattr f statReply

/-- `FileNode.Setattr`。 -/
def fileSetattr (b : Bridge) (f : FileNode) (mode : Option UInt32) (size : Option UInt64) (reply : Bool) :
    Bridge × Except Errno (UInt32 × UInt64 × UInt64) :=
  b.setattrAt f.path mode size reply

/-! ## カーネルから見た木

go-fuse は、操作が成功したときに木を変える。`Lookup`, `Create`, `Mkdir` は返した節点を子 `name` として
付け（それまでの子の部分木は外れる）、`Unlink` と `Rmdir` は子 `name` を外し、`Rename` は子 `name` の
部分木を新しい親の子 `newName` へ移す。
-/

/-- 節点 `q` に `n` を付け、`q` の下にあったものを外す。 -/
def attach (b : Bridge) (q : List GoString) (n : Node) : Bridge :=
  { b with tree := fun x => if x = q then some n else if q <+: x then none else b.tree x }

/-- 節点 `q` とその下を外す。 -/
def detach (b : Bridge) (q : List GoString) : Bridge :=
  { b with tree := fun x => if q <+: x then none else b.tree x }

/-- 節点 `src` の部分木を `dst` へ移す。`dst` の下にあったものは外れる。 -/
def move (b : Bridge) (src dst : List GoString) : Bridge :=
  { b with tree := fun x =>
      if dst <+: x then b.tree (src ++ x.drop dst.length) else if src <+: x then none else b.tree x }

/-- 木の節点 `q` の `Dir`。`Rename` の型の表明 `newParent.(*Dir)` が成り立つときだけ値がある。 -/
def dirAt (b : Bridge) (q : List GoString) : Option Nat :=
  match b.tree q with
  | some (.dir d) => some d
  | _ => none

end Bridge

/-- カーネルが木の節点に対して行う呼び出し。サーバの答えと時刻を含む。`Open` は `openFile` と書く。 -/
inductive Op
  | lookup (name : GoString) (now : Time) (reply : Option (List Stat))
  | readdir (now : Time) (reply : Option (List Stat))
  | getattr (now : Time) (parentReply : Option (List Stat)) (statReply : Option Stat)
  | setattr (mode : Option UInt32) (size : Option UInt64) (reply : Bool)
  | openFile (flags : UInt32) (openReply : Bool) (statReply : Option Stat)
  | create (name : GoString) (mode : UInt32) (reply : Bool)
  | mkdir (name : GoString) (mode : UInt32) (reply : Bool)
  | unlink (name : GoString) (reply : Bool)
  | rmdir (name : GoString) (reply : Bool)
  | rename (name : GoString) (newParent : List GoString) (newName : GoString) (reply : Bool)
deriving Repr

/-- 木の節点 `node` への呼び出し。 -/
structure Event where
  node : List GoString
  op : Op
deriving Repr

namespace Bridge

/-- 節点 `node` の `Dir` `r` に対する呼び出し。`Dir` の操作が成功すると、go-fuse が木を変える。 -/
def call (b : Bridge) (node : List GoString) (r : Nat) : Op → Bridge
  | .lookup name now reply =>
    match b.lookup r name now reply with
    | (b, .ok (n, _)) => b.attach (node ++ [name]) n
    | (b, .error _) => b
  | .readdir now reply => (b.readdir r now reply).1
  | .getattr now parentReply statReply => (b.getattr r now parentReply statReply).1
  | .setattr mode size reply => (b.setattr r mode size reply).1
  | .openFile .. => b
  | .create name mode reply =>
    match b.create r name mode reply with
    | (b, .ok n) => b.attach (node ++ [name]) n
    | (b, .error _) => b
  | .mkdir name mode reply =>
    match b.mkdir r name mode reply with
    | (b, .ok n) => b.attach (node ++ [name]) n
    | (b, .error _) => b
  | .unlink name reply =>
    match b.unlink r name reply with
    | (b, .ok ()) => b.detach (node ++ [name])
    | (b, .error _) => b
  | .rmdir name reply =>
    match b.rmdir r name reply with
    | (b, .ok ()) => b.detach (node ++ [name])
    | (b, .error _) => b
  | .rename name newParent newName reply =>
    match b.rename r name (b.dirAt newParent) newName reply with
    | (b, .ok ()) => b.move (node ++ [name]) (newParent ++ [newName])
    | (b, .error _) => b

/-- 節点 `node` の `FileNode` `f` に対する呼び出し。ファイルの節点には `Getattr`, `Setattr`, `Open` のほかは
来ない。 -/
def fileCall (b : Bridge) (f : FileNode) : Op → Bridge
  | .getattr now parentReply statReply => (b.fileGetattr f now parentReply statReply).1
  | .setattr mode size reply => (b.fileSetattr f mode size reply).1
  | .openFile flags openReply statReply => (b.fileOpen f flags openReply statReply).1
  | _ => b

/-- 一つの呼び出し。節点の `Dir` か `FileNode` の操作を行う。木にない節点には何もしない。 -/
def step (b : Bridge) (node : List GoString) (op : Op) : Bridge :=
  match b.tree node with
  | some (.dir r) => b.call node r op
  | some (.file f) => b.fileCall f op
  | none => b

/-- 呼び出しの列を順に行う。 -/
def run (b : Bridge) : List Event → Bridge
  | [] => b
  | e :: es => (b.step e.node e.op).run es

end Bridge

end Go9p
