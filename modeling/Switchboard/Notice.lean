/-! What the log says about things that went on without an error. -/

namespace Switchboard

inductive Notice where
  | unknownAlias (name : String)
  | unknownParser (name : String)
  | unknownProvider (head : String)
  | unrepresentableStatus (status : UInt16) (path : String)
  deriving DecidableEq, Repr

def Notice.message : Notice → String
  | .unknownAlias name => "Unknown injection alias, value will be absent alias=" ++ name
  | .unknownParser name => "Unknown entity parser, value will be absent parser=" ++ name
  | .unknownProvider head => "Unknown injection provider, value will be absent prefix=" ++ head
  | .unrepresentableStatus status path =>
    "Handler set an unrepresentable status code status=" ++ toString status.toNat ++
      " path=" ++ path

end Switchboard
