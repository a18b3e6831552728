namespace CommitPolicy.Files

inductive Failure where
  | notFound
  | alreadyThere
  | notDirectory
  | isDirectory
  /-- A name, or a whole path, is longer than a file system takes. -/
  | nameTooLong
  | notText
  | other (text : String)
deriving DecidableEq, Repr, Inhabited

def Failure.message : Failure → String
  | notFound => "No such file or directory (os error 2)"
  | alreadyThere => "File exists (os error 17)"
  | notDirectory => "Not a directory (os error 20)"
  | isDirectory => "Is a directory (os error 21)"
  | nameTooLong => "File name too long (os error 36)"
  | notText => "stream did not contain valid UTF-8"
  | other text => text

end CommitPolicy.Files
