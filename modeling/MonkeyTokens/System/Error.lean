import MonkeyTokens.Text.Utf8

/-!
# Errors of the system

What can go wrong when a file is read or output is written.

* `OsError` — the numbered causes, with number and wording;
* `SystemError` — these, and the causes that have no number.
-/

namespace MonkeyTokens

/-- A cause that the operating system reports by number. -/
inductive OsError where
  | notPermitted
  | notFound
  | noDevice
  | permissionDenied
  | exists_
  | notADirectory
  | isADirectory
  | tooManyOpenFiles
  | fileBusy
  | fileTooLarge
  | noSpace
  | readOnly
  | brokenPipe
  | nameTooLong
  | tooManyLinks
  deriving DecidableEq, Repr

namespace OsError

/-- The number of a cause. -/
def code : OsError → Nat
  | notPermitted => 1
  | notFound => 2
  | noDevice => 6
  | permissionDenied => 13
  | exists_ => 17
  | notADirectory => 20
  | isADirectory => 21
  | tooManyOpenFiles => 24
  | fileBusy => 26
  | fileTooLarge => 27
  | noSpace => 28
  | readOnly => 30
  | brokenPipe => 32
  | nameTooLong => 36
  | tooManyLinks => 40

/-- The wording of a cause. -/
def wording : OsError → Text
  | notPermitted => "Operation not permitted".toList
  | notFound => "No such file or directory".toList
  | noDevice => "No such device or address".toList
  | permissionDenied => "Permission denied".toList
  | exists_ => "File exists".toList
  | notADirectory => "Not a directory".toList
  | isADirectory => "Is a directory".toList
  | tooManyOpenFiles => "Too many open files".toList
  | fileBusy => "Text file busy".toList
  | fileTooLarge => "File too large".toList
  | noSpace => "No space left on device".toList
  | readOnly => "Read-only file system".toList
  | brokenPipe => "Broken pipe".toList
  | nameTooLong => "File name too long".toList
  | tooManyLinks => "Too many levels of symbolic links".toList

/-- Every cause. -/
def all : List OsError :=
  [notPermitted, notFound, noDevice, permissionDenied, exists_, notADirectory, isADirectory,
    tooManyOpenFiles, fileBusy, fileTooLarge, noSpace, readOnly, brokenPipe, nameTooLong,
    tooManyLinks]

/-- The cause with a number. -/
def ofCode? (n : Nat) : Option OsError :=
  all.find? fun e => e.code = n

/-- **Each cause has a number of its own**, and is had from it. -/
theorem ofCode?_code (e : OsError) : ofCode? e.code = some e := by
  cases e <;> decide

end OsError

/-- Why reading or writing failed. -/
inductive SystemError where
  | os (cause : OsError)
  /-- What was read is no UTF-8. -/
  | notUtf8
  /-- A path contains the character that ends names. -/
  | nulInName
  /-- A cause known by its wording only. -/
  | worded (wording : Text)
  deriving DecidableEq, Repr

/-- The wording of a cause; a numbered one shows its number too. -/
def SystemError.message : SystemError → Text
  | .os cause => cause.wording ++ " (os error ".toList ++ Nat.toDigits 10 cause.code ++ ")".toList
  | .notUtf8 => "stream did not contain valid UTF-8".toList
  | .nulInName => "file name contained an unexpected NUL byte".toList
  | .worded wording => wording

end MonkeyTokens
