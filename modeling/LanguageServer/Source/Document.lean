namespace LanguageServer

/-- The full text of one source file, filed under its uri. -/
structure Document where
  uri : String
  text : String
deriving DecidableEq, Repr, Inhabited

end LanguageServer
