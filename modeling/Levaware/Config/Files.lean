import Levaware.Platform

set_option autoImplicit false

/-! # File helpers of the datastore (`config_utils.c`)

`save_to_file`, `read_file` and `is_file_exists` over the file system calls they make. A call on a
missing file answers `-ENOENT`, as Zephyr's do; every other return code is the platform's. -/

namespace Levaware

def enoent : Int := 2

variable (P : Platform)

/-! ## File system calls -/

/-- `fs_open`, with or without `FS_O_CREATE`. -/
def fsOpen (name : String) (create : Bool) : Fw Int := do
  let b ← get
  match b.flash name with
  | some _ => return P.openRc name
  | none =>
      if create then
        if P.openRc name < 0 then return P.openRc name
        set (b.setFile name [])
        return P.openRc name
      else return -enoent

/-- `fs_stat`: the return code and the size of the file. -/
def fsStat (name : String) : Fw (Int × Nat) := do
  match (← get).flash name with
  | some content => return (P.statRc name, content.length)
  | none => return (-enoent, 0)

/-- `fs_truncate` of the open file: cut, or extended with zeros. -/
def fsTruncate (name : String) (length : Nat) : Fw Int := do
  let b ← get
  let content := (b.flash name).getD []
  if P.truncateRc name = 0 then
    set (b.setFile name (content.take length ++ List.replicate (length - content.length) 0))
  return P.truncateRc name

/-- `fs_write` at the start of the open file. -/
def fsWrite (name : String) (content : List UInt8) : Fw Int := do
  let b ← get
  let rc := P.writeRc name content.length
  if 0 ≤ rc then
    let old := (b.flash name).getD []
    let done := content.take rc.toNat
    set (b.setFile name (done ++ old.drop done.length))
  return rc

/-- `fs_read` from the start of the open file. -/
def fsRead {n : Nat} (name : String) (buf : CBuf n) : Fw (Int × CBuf n) := do
  let content := ((← get).flash name).getD []
  if P.readRc name < 0 then return (P.readRc name, buf)
  return (((min n content.length : Nat) : Int), buf.blit content)

/-! ## The helpers -/

/-- `save_to_file`. -/
def saveToFile (content : List UInt8) (fileName : String) : Fw Int := do
  logEffect (.saveToFile fileName content)
  let rc ← fsOpen P fileName true
  if rc < 0 then erabort "save_to_file - failed to open"
  -- the file is resized only when its size differs from the new content's
  let (rc, size) ← fsStat P fileName
  let fileLen : Int := if rc = 0 then size else -1
  if fileLen ≠ content.length then
    let rc ← fsTruncate P fileName content.length
    if rc ≠ 0 then erabort "save_to_file - truncate"
  let rc ← fsWrite P fileName content
  if 0 ≤ rc then return rc
  erabort "save_to_file - failed to write"

/-- `read_file`: the number of bytes read and the buffer after the read. -/
def readFile {n : Nat} (outputBuf : CBuf n) (fileName : String) : Fw (Int × CBuf n) := do
  let rc ← fsOpen P fileName false
  if rc < 0 then erabort "read_file - unable to open file"
  let (rc, _) ← fsStat P fileName
  if rc ≠ 0 then erabort "read_file - failed to get stat"
  let (rc, buf) ← fsRead P fileName outputBuf
  if 0 ≤ rc then return (rc, buf)
  erabort "read_file - failed to read"

/-- `is_file_exists`. The return code is compared with `ENOENT`, not with `-ENOENT`. -/
def isFileExists (fileName : String) : Fw Bool := do
  let (rc, size) ← fsStat P fileName
  if rc = 0 then return decide (0 < size)
  if rc = enoent then return false
  erabort "is_file_exists"

/-- `config_fs_init`. -/
def configFsInit : Fw Unit := do
  if P.mountRc < 0 then erabort "config_init_fs - failed to mount"

/-! ## What they do when every call succeeds

One lemma for each call, then one for each helper; callers cite these and unfold no helper. -/

open Abort

variable {P} {name : String} {content : List UInt8} {b : Board}

theorem fsOpen_create (hP : P.FsReliable) (name : String) (b : Board) :
    (fsOpen P name true).run b = .ok 0 (b.setFile name ((b.flash name).getD [])) := by
  unfold fsOpen
  cases h : b.flash name with
  | none => simp [h, hP.openRc]
  | some content =>
      have hb : b.setFile name content = b := by simp [Board.setFile, ← h]
      simp [h, hP.openRc, hb]

theorem fsOpen_present (hP : P.FsReliable) (h : b.flash name = some content) :
    (fsOpen P name false).run b = .ok 0 b := by
  simp [fsOpen, h, hP.openRc]

theorem fsOpen_missing (h : b.flash name = none) :
    (fsOpen P name false).run b = .ok (-enoent) b := by
  simp [fsOpen, h]

theorem fsStat_present (hP : P.FsReliable) (h : b.flash name = some content) :
    (fsStat P name).run b = .ok (0, content.length) b := by
  simp [fsStat, h, hP.statRc]

theorem fsStat_missing (h : b.flash name = none) :
    (fsStat P name).run b = .ok (-enoent, 0) b := by
  simp [fsStat, h]

theorem fsTruncate_present (hP : P.FsReliable) (h : b.flash name = some content) (n : Nat) :
    (fsTruncate P name n).run b
      = .ok 0 (b.setFile name (content.take n ++ List.replicate (n - content.length) 0)) := by
  simp [fsTruncate, h, hP.truncateRc]

theorem fsWrite_present (hP : P.FsReliable) (h : b.flash name = some content)
    (new : List UInt8) :
    (fsWrite P name new).run b
      = .ok new.length (b.setFile name (new ++ content.drop new.length)) := by
  simp [fsWrite, h, hP.writeRc]

theorem fsRead_present (hP : P.FsReliable) (h : b.flash name = some content) {n : Nat}
    (buf : CBuf n) :
    (fsRead P name buf).run b = .ok (((min n content.length : Nat) : Int), buf.blit content) b := by
  simp [fsRead, h, hP.readRc]

/-- A full save makes the content the file, whatever size the file had. -/
theorem saveToFile_reliable (hP : P.FsReliable) (content : List UInt8) (name : String)
    (b : Board) :
    (saveToFile P content name).run b
      = .ok content.length ((b.log (.saveToFile name content)).setFile name content) := by
  set b₀ := b.log (.saveToFile name content)
  set old := (b₀.flash name).getD []
  have hold : (b₀.setFile name old).flash name = some old := Board.flash_setFile_self
  unfold saveToFile logEffect
  rw [run_bind_ok (EStateM.run_modify _ b), run_bind_ok (fsOpen_create hP name b₀),
    if_neg (by decide), run_bind_ok (fsStat_present hP hold)]
  by_cases hlen : old.length = content.length
  · have hw := fsWrite_present hP hold content
    have hdrop : old.drop content.length = [] := List.drop_of_length_le hlen.le
    simp [hw, hlen, hdrop]
  · have ht := fsTruncate_present hP hold content.length
    set resized := old.take content.length ++ List.replicate (content.length - old.length) 0
    rw [Board.setFile_setFile] at ht
    have hresized : (b₀.setFile name resized).flash name = some resized :=
      Board.flash_setFile_self
    have hw := fsWrite_present hP hresized content
    have hdrop : resized.drop content.length = [] :=
      List.drop_of_length_le (by simp [resized]; omega)
    simp [ht, hw, hlen, hdrop]

theorem readFile_present (hP : P.FsReliable) (h : b.flash name = some content) {n : Nat}
    (buf : CBuf n) :
    (readFile P buf name).run b =
      .ok (((min n content.length : Nat) : Int), buf.blit content) b := by
  unfold readFile
  rw [run_bind_ok (fsOpen_present hP h), if_neg (by decide), run_bind_ok (fsStat_present hP h)]
  simp only [ne_eq, not_true_eq_false, if_false]
  rw [run_bind_ok (fsRead_present hP h buf), if_pos (Int.natCast_nonneg _)]
  rfl

theorem isFileExists_present (hP : P.FsReliable) (h : b.flash name = some content) :
    (isFileExists P name).run b = .ok (decide (0 < content.length)) b := by
  unfold isFileExists
  rw [run_bind_ok (fsStat_present hP h)]
  rfl

/-- The code of a missing file is neither `0` nor `ENOENT`, so the check itself aborts. -/
theorem isFileExists_missing (h : b.flash name = none) :
    (isFileExists P name).run b = .error "is_file_exists" b := by
  unfold isFileExists
  rw [run_bind_ok (fsStat_missing h)]
  rfl

end Levaware
