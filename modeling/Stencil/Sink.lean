/-!
# Sinks

Where output goes: a page of text or a store of bytes, either of which may refuse to take any more.
-/

namespace Stencil

set_option autoImplicit false

inductive TextSink where
  | page (text : String)
  | refusing

inductive ByteSink where
  | store (bytes : List UInt8)
  | refusing

def TextSink.write (text : String) : TextSink → Except String TextSink
  | page before => .ok (page (before ++ text))
  | refusing => .error "an error occurred when formatting an argument"

/-- A sink of bytes is not even asked when there is nothing to write. -/
def ByteSink.write (text : String) : ByteSink → Except String ByteSink
  | store before => .ok (store (before ++ text.toUTF8.toList))
  | refusing => if text = "" then .ok refusing else .error "sink full"

end Stencil
