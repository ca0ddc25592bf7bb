import Go9p.Mount.Answer
import Go9p.Mount.Expiry
import Go9p.Mount.Requests

/-!
# 橋渡しの路についての結果

節点を動かさない呼び出しの列では、どの状態でも木の節点の路は根からの名前の `Join` に等しく、次の呼び出しが
サーバに送るものは節点の今の場所を名指す。名前が妥当なら、`Getattr` が読む親の路は親の場所である。
`Rename` で名前を変えると、移した節点の路は元の名前のままになる。

カーネルが送る呼び出し（節点を動かさず、名前が `Proper`）の列では、木の形と `dirCache` が合い
（`Shape`）、節点の `Getattr` は親での `Lookup` と同じ属性を答え、`Lookup` は木にあるディレクトリに同じ
`Dir` を返し、木の違う場所の節点は違うサーバの路を指す。

どの呼び出しの列のあとでも、`dirGet(p)` の `Dir` の路は `p` で、`Lookup` が返す節点の路は親の `Dir` の路に
名前を `Join` したものである。

`Create`, `Mkdir`, `Unlink`, `Rmdir`, `Rename` は `Dir` の内容のキャッシュの期限を切るので、次の `Readdir` と
`Lookup` はサーバを読み直し、`Create` と `Mkdir` がキャッシュに足す `Stat` はカーネルに答えられない。
`Setattr` は期限を切らないので、期限の内の `Getattr` は `Setattr` の前の属性を答える。送る `WStat` は、
モードと長さか、名前しか変えない。
-/

namespace Go9p

open Bridge

/-- カーネルが送る呼び出しの列のあとで、木の `q ++ [x]` に `Dir` `d` があれば、親の `Dir` `p` での `x` の
`Lookup` がディレクトリを返すとき、それは `d` である。同じディレクトリに二つめの `Dir` を作らない。 -/
theorem run_lookup_same_dir (es : List Event) (hes : ∀ e ∈ es, e.Valid) {q : List GoString} {x : GoString}
    {p d : Nat} (hp : (init.run es).tree q = some (.dir p)) (hd : (init.run es).tree (q ++ [x]) = some (.dir d))
    (now : Time) (reply : Option (List Stat)) {n : Node} {a : Attr}
    (hl : ((init.run es).lookup p x now reply).2 = .ok (n, a)) : n = .dir d ∨ ∃ f, n = .file f :=
  (shape_init.run inv_init es hes).lookup_same_dir (inv_init.run es fun e he => (hes e he).1) hp hd now reply hl

/-- `"a"` を作ってから、根で `"a"` を引き直す。 -/
theorem run_lookup_same_dir_mkdir :
    let es : List Event := [⟨[], .mkdir [97] 0o755 true⟩]
    let reply := some [⟨0, 0, ⟨0, 0, 7⟩, dmdir ||| 0o755, 0, 0, 3, [97], [], [], []⟩]
    (∀ e ∈ es, e.Valid) ∧ (init.run es).tree [] = some (.dir 0) ∧
      (init.run es).tree ([] ++ [[97]]) = some (.dir 1) ∧
      ((init.run es).lookup 0 [97] 2 reply).2 = .ok (.dir 1, .ofStat ⟨0, 0, ⟨0, 0, 7⟩, dmdir ||| 0o755, 0, 0, 3, [97], [], [], []⟩) ∧
      (Node.dir 1 = .dir 1 ∨ ∃ f, Node.dir 1 = .file f) :=
  ⟨by decide, by decide, by decide, rfl,
    @run_lookup_same_dir [⟨[], .mkdir [97] 0o755 true⟩] (by decide) [] [97] 0 1 (by decide) (by decide) 2
      (some [⟨0, 0, ⟨0, 0, 7⟩, dmdir ||| 0o755, 0, 0, 3, [97], [], [], []⟩]) (.dir 1) _ (by rfl)⟩

/-- 根から始めて、どの呼び出しの列のあとでも（`Rename` が節点を別の名前の下へ移したあとでも）、
`dirGet(p)` が返す `Dir` の路は `p` である。 -/
theorem run_dirGet_path (es : List Event) (p : GoString) {d : Nat} (hd : (init.run es).dirGet p = some d) :
    ((init.run es).dirs d).path = p :=
  (inv_init.toCore.run es).cache_path p d hd

/-- サーバのディレクトリ `"a"` を引き、`"b"` に名前を変え、`"b"` を読んだあとの `dirGet("/a")`。 -/
theorem run_dirGet_path_renamed :
    let dirA : Stat := ⟨0, 0, ⟨0, 0, 7⟩, dmdir, 0, 0, 0, [97], [], [], []⟩
    let es : List Event := [⟨[], .lookup [97] 1 (some [dirA])⟩, ⟨[], .rename [97] [] [98] true⟩,
      ⟨[[98]], .readdir 2 (some [])⟩]
    (init.run es).dirGet [slash, 97] = some 1 ∧ ((init.run es).dirs 1).path = [slash, 97] :=
  ⟨by decide, run_dirGet_path _ _ (by decide)⟩

/-- `Create` と `Mkdir` が親の `Dir` の内容のキャッシュの後ろに足す `Stat` は、カーネルに答えられることが
ない。どちらもキャッシュの期限を `time.Time{}` にするので、0 より後の時刻に来る `Lookup`, `Readdir`,
`Getattr` はサーバから読み直す。そのキャッシュを何に置き換えても、その後の時刻が 0 より後の呼び出しの列が
送るものと木は変わらず、その後の `Lookup`, `Readdir`, `Dir.Getattr`, `FileNode.Getattr` の答えも変わらない。 -/
theorem created_entry_never_answered (b : Bridge) (r : Nat) (name : GoString) (mode : UInt32) {b₁ : Bridge}
    (h₁ : b₁ = (b.create r name mode true).1 ∨ b₁ = (b.mkdir r name mode true).1) (c : Option (List Stat))
    (es : List Event) (hes : ∀ e ∈ es, e.op.afterZero) :
    let b₀ := b₁.setDir r { b₁.dirs r with dirCache := c }
    (b₁.run es).sent = (b₀.run es).sent ∧ (b₁.run es).tree = (b₀.run es).tree ∧
      ∀ now, 0 < now → ∀ (r' : Nat) (name' : GoString) (f : FileNode) (reply : Option (List Stat))
        (statReply : Option Stat),
        ((b₁.run es).lookup r' name' now reply).2 = ((b₀.run es).lookup r' name' now reply).2 ∧
        ((b₁.run es).readdir r' now reply).2 = ((b₀.run es).readdir r' now reply).2 ∧
        ((b₁.run es).getattr r' now reply statReply).2 = ((b₀.run es).getattr r' now reply statReply).2 ∧
        ((b₁.run es).fileGetattr f now reply statReply).2 = ((b₀.run es).fileGetattr f now reply statReply).2 := by
  intro b₀
  have h0 : (b₁.dirs r).dirTTL = 0 := by
    rcases h₁ with rfl | rfl
    exacts [create_dirTTL b r name mode, mkdir_dirTTL b r name mode]
  have hv : (b₁.run es).observed = (b₀.run es).observed := run_observed (observed_setDir_expired h0 c).symm hes
  exact ⟨by simpa using congrArg Bridge.sent hv, by simpa using congrArg Bridge.tree hv, fun now hnow r' name' f reply statReply =>
    ⟨((lookup_ignoresExpired hnow r' name' reply).agree hv).2, ((readdir_ignoresExpired hnow r' reply).agree hv).2,
      ((getattr_ignoresExpired hnow r' reply statReply).agree hv).2,
      ((fileGetattr_ignoresExpired hnow f reply statReply).agree hv).2⟩⟩

/-- 根に `"a"` を作り、根を時刻 1 に読む。`Create` が足した `"a"` の `Stat` を消しても同じである。 -/
theorem created_entry_never_answered_root :
    let es : List Event := [⟨[], .readdir 1 (some [])⟩]
    let b₁ := (init.create 0 [97] 0o644 true).1
    (b₁ = (init.create 0 [97] 0o644 true).1 ∨ b₁ = (init.mkdir 0 [97] 0o644 true).1) ∧ (∀ e ∈ es, e.op.afterZero) ∧
      let b₀ := b₁.setDir 0 { b₁.dirs 0 with dirCache := none }
      (b₁.run es).sent = (b₀.run es).sent ∧ (b₁.run es).tree = (b₀.run es).tree ∧
        ∀ now, 0 < now → ∀ (r' : Nat) (name' : GoString) (f : FileNode) (reply : Option (List Stat))
          (statReply : Option Stat),
          ((b₁.run es).lookup r' name' now reply).2 = ((b₀.run es).lookup r' name' now reply).2 ∧
          ((b₁.run es).readdir r' now reply).2 = ((b₀.run es).readdir r' now reply).2 ∧
          ((b₁.run es).getattr r' now reply statReply).2 = ((b₀.run es).getattr r' now reply statReply).2 ∧
          ((b₁.run es).fileGetattr f now reply statReply).2 = ((b₀.run es).fileGetattr f now reply statReply).2 :=
  ⟨.inl rfl, by decide, created_entry_never_answered init 0 [97] 0o644 (.inl rfl) none _ (by decide)⟩

/-- 自分の書いたものは次に読める。`Dir` `r` での `Create`, `Mkdir`, `Unlink`, `Rmdir` と、同じ親の中での
`Rename` が成功したあとは、0 より後のどの時刻にも、`r` の `Readdir` と `Lookup` はサーバの一覧を読み直し、
`Readdir` はサーバの今の一覧をそのまま答える。 -/
theorem modified_dir_refetches (b : Bridge) (r : Nat) (name newName : GoString) (mode : UInt32) {b₁ : Bridge}
    (h₁ : b₁ = (b.create r name mode true).1 ∨ b₁ = (b.mkdir r name mode true).1 ∨ b₁ = (b.unlink r name true).1 ∨
      b₁ = (b.rmdir r name true).1 ∨ b₁ = (b.rename r name (some r) newName true).1)
    {now : Time} (hnow : 0 < now) (reply : Option (List Stat)) (name' : GoString) :
    (b₁.readdir r now reply).1.sent = b₁.sent ++ [.readdir (b₁.dirs r).path] ∧
      (b₁.lookup r name' now reply).1.sent = b₁.sent ++ [.readdir (b₁.dirs r).path] ∧
      (b₁.readdir r now reply).2 = match reply with
        | none => .error .epipe
        | some stats => .ok (stats.map fun stat => ⟨stat.name, if stat.mode &&& dmdir > 0 then sIFDIR else 0⟩) := by
  have h0 : (b₁.dirs r).dirTTL = 0 := by
    rcases h₁ with rfl | rfl | rfl | rfl | rfl
    exacts [create_dirTTL b r name mode, mkdir_dirTTL b r name mode, removeEntry_dirTTL b r name,
      removeEntry_dirTTL b r name, rename_dirTTL b r name newName]
  obtain ⟨hsent, hans⟩ := readdir_of_expired h0 hnow reply
  exact ⟨hsent, by rw [lookup_sent, fillDirCache_sent_of_expired h0 hnow], hans⟩

/-- 根に `"a"` を作ったあと、時刻 1 に根を読む。 -/
theorem modified_dir_refetches_create :
    let b₁ := (init.create 0 [97] 0o644 true).1
    (b₁ = (init.create 0 [97] 0o644 true).1 ∨ b₁ = (init.mkdir 0 [97] 0o644 true).1 ∨
      b₁ = (init.unlink 0 [97] true).1 ∨ b₁ = (init.rmdir 0 [97] true).1 ∨
      b₁ = (init.rename 0 [97] (some 0) [98] true).1) ∧ 0 < 1 ∧
      (b₁.readdir 0 1 (some [])).1.sent = b₁.sent ++ [.readdir (b₁.dirs 0).path] ∧
      (b₁.lookup 0 [97] 1 (some [])).1.sent = b₁.sent ++ [.readdir (b₁.dirs 0).path] ∧
      (b₁.readdir 0 1 (some [])).2 = match (some [] : Option (List Stat)) with
        | none => .error .epipe
        | some stats => .ok (stats.map fun stat => ⟨stat.name, if stat.mode &&& dmdir > 0 then sIFDIR else 0⟩) :=
  ⟨.inl rfl, Nat.one_pos, modified_dir_refetches init 0 [97] [98] 0o644 (.inl rfl) Nat.one_pos (some []) [97]⟩

/-- `Setattr` は親の `Dir` の内容のキャッシュの期限を切らない。`Getattr` の路の親の `Dir` が、期限の内の
内容のキャッシュにその名前の `Stat` を持つなら、`Dir.Setattr` か `FileNode.Setattr` がモードや長さを変えた
（サーバが受け入れた）あとでも、同じ期限の内の `Getattr` は、サーバに何も尋ねずに `Setattr` の前の `Stat` の
属性を答える。 -/
theorem setattr_then_getattr_stale (b : Bridge) {path : GoString} {p : Nat} (hp : b.dirGet (pathDir path) = some p)
    {now : Time} (hc : (b.dirs p).dirCache ≠ none) (ht : now ≤ (b.dirs p).dirTTL) {stat : Stat}
    (hs : ((b.dirs p).dirCache.getD []).find? (·.name = base path) = some stat) (mode : Option UInt32)
    (size : Option UInt64) (reply : Bool) (parentReply : Option (List Stat))
    (old : Bridge → Bridge × Except Errno Attr) :
    let b₁ := (b.setattrAt path mode size reply).1
    b₁.getattrAt path now parentReply old = (b₁, .ok (.ofStat stat)) := by
  intro b₁
  obtain ⟨hd, hdc⟩ := setattrAt_dirs b path mode size reply
  have hp₁ : b₁.dirGet (pathDir path) = some p := by rw [← hp]; exact congrFun hdc _
  exact getattrAt_of_fresh hp₁ (by rwa [hd]) (by rwa [hd]) (by rwa [hd]) parentReply old

/-- 根を時刻 1 に読んで `"a"`（モード 0644）を覚えたあと、`"/a"` のモードを 0600 に変えても、時刻 2 の
`Getattr` は、サーバが 0600 と答える一覧を持っていても、0644 を答える。 -/
theorem setattr_then_getattr_stale_chmod :
    let statA : Stat := ⟨0, 0, ⟨0, 0, 7⟩, 0o644, 0, 0, 0, [97], [], [], []⟩
    let b := (init.readdir 0 1 (some [statA])).1
    b.dirGet (pathDir [slash, 97]) = some 0 ∧ (b.dirs 0).dirCache ≠ none ∧ 2 ≤ (b.dirs 0).dirTTL ∧
      ((b.dirs 0).dirCache.getD []).find? (·.name = base [slash, 97]) = some statA ∧
      ((b.setattrAt [slash, 97] (some 0o600) none true).1.getattrAt [slash, 97] 2
          (some [{ statA with mode := 0o600 }]) fun b => (b, .error .enoent)) =
        ((b.setattrAt [slash, 97] (some 0o600) none true).1, .ok (.ofStat statA)) :=
  ⟨by decide, by decide, by decide, by decide,
    @setattr_then_getattr_stale _ [slash, 97] 0 (by decide) 2 (by decide) (by decide) _ (by decide) (some 0o600) none
      true _ _⟩

/-- 根から始めて、どの呼び出しの列のあとでも、橋渡しが送った `WStat` の `Stat` は、全ての欄が「変えない」印で
あるものから、モードと長さだけ（`Setattr`）か、名前だけ（`Rename`）を変えたものである。橋渡しは、サーバに
型、装置、Qid、時刻、所有者、グループ、最後に変えた利用者を変えるよう求めることがない。 -/
theorem run_wstat_fields (es : List Event) (path : GoString) {s : Stat}
    (hs : ClientCall.wstat path s ∈ (init.run es).sent) :
    s = { Stat.unchanged with mode := s.mode, length := s.length } ∨ s = { Stat.unchanged with name := s.name } :=
  limitedWStats_init.run es _ hs

/-- `"a"` を作り、そのモードを 0700 に変える。 -/
theorem run_wstat_fields_chmod :
    let es : List Event := [⟨[], .mkdir [97] 0o755 true⟩, ⟨[[97]], .setattr (some 0o700) none true⟩]
    let s := setattrStat (some 0o700) none
    ClientCall.wstat [slash, 97] s ∈ (init.run es).sent ∧
      (s = { Stat.unchanged with mode := s.mode, length := s.length } ∨ s = { Stat.unchanged with name := s.name }) :=
  ⟨by decide, run_wstat_fields [⟨[], .mkdir [97] 0o755 true⟩, ⟨[[97]], .setattr (some 0o700) none true⟩] [slash, 97]
    (by decide)⟩

/-- どの状態から始めても、どの呼び出しの列のあとでも、`dirGet(p)` が `Dir` を返していた路 `p` には
`dirGet(p)` が `Dir` を返す。大域の `dirCache` は項目を消すことがなく、`Rmdir` で消したディレクトリや
`Rename` で名前を変えたディレクトリの路の鍵も残る。 -/
theorem run_dirCache_keeps (b : Bridge) (es : List Event) {p : GoString} (h : b.dirGet p ≠ none) :
    (b.run es).dirGet p ≠ none :=
  run_dirCache_ne_none b es h

/-- `"a"` を作って消したあとも、`dirGet("/a")` は `Dir` を返す。 -/
theorem run_dirCache_keeps_rmdir :
    let b := init.run [⟨[], .mkdir [97] 0o755 true⟩]
    b.dirGet [slash, 97] ≠ none ∧ (b.run [⟨[], .rmdir [97] true⟩]).dirGet [slash, 97] ≠ none :=
  ⟨by decide, run_dirCache_keeps _ [⟨[], .rmdir [97] true⟩] (by decide)⟩

/-- `convertFlag` は読み、書き、読み書きのどれかを選び（どの `case` にも合わなければ 0、すなわち読み）、
`O_TRUNC` があれば `Otrunc` を足す。 -/
theorem convertFlag_eq (flags : UInt32) :
    ∃ m, (m = oread ∨ m = owrite ∨ m = ordwr) ∧
      convertFlag flags = if flags &&& osOTrunc > 0 then m ||| otrunc else m :=
  ⟨_, by split_ifs <;> simp [oread, owrite, ordwr], rfl⟩

/-- `FileNode.Open` が `convertFlag` で作って送るモードを、`openPermission` がどれかの利用者とファイルに
許すのは、開くときの `flags` に `O_TRUNC` がないときだけである。`O_TRUNC` があれば、`Otrunc` の付いた
モードは読み、書き、読み書き、実行のどれでもなく、どの利用者にもどのファイルにも拒まれる。 -/
theorem open_mode_permitted_iff (noneMode : UInt8) (flags : UInt32) :
    (∃ user file, openPermission noneMode user file (convertFlag flags) = true) ↔
      ¬flags &&& osOTrunc > 0 := by
  obtain ⟨m, hm, hc⟩ := convertFlag_eq flags
  rw [hc]
  by_cases ht : flags &&& osOTrunc > 0
  · rw [if_pos ht, iff_false_intro (not_not_intro ht), iff_false]
    rintro ⟨user, file, h⟩
    rw [openPermission_eq_false_of_requiredBits _ _ _ (by rcases hm with rfl | rfl | rfl <;> decide)] at h
    cases h
  · rw [if_neg ht, iff_true_intro ht, iff_true]
    exact ⟨[], ⟨⟨0, 0, ⟨0, 0, 0⟩, 0o777, 0, 0, 0, [], [], [], []⟩⟩, by rcases hm with rfl | rfl | rfl <;> rfl⟩

/-- `Rename` は子 `"a"` を `"b"` に移すが、その `Dir` の路は `"/a"` のままである。サーバのディレクトリ
`"a"` を `Lookup` してから `"b"` に名前を変えると、木の `"b"` の `Dir` の路は `path.Join("/", "b")` と
異なり、そこでの `Readdir` はサーバの `"/a"` を読みに行く。 -/
theorem rename_keeps_old_path :
    let dirA : Stat := ⟨0, 0, ⟨0, 0, 7⟩, dmdir, 0, 0, 0, [97], [], [], []⟩
    let b := init.run [⟨[], .lookup [97] 1 (some [dirA])⟩, ⟨[], .rename [97] [] [98] true⟩,
      ⟨[[98]], .readdir 2 (some [])⟩]
    b.tree [[98]] = some (.dir 1) ∧ b.nodePath (.dir 1) ≠ join ([slash] :: [[98]]) ∧
      join ([slash] :: [[98]]) = [slash, 98] ∧ b.sent.getLast? = some (.readdir [slash, 97]) := by
  decide

end Go9p
