/-!
The kinds of failure that come from outside: of the wire, of the system, and of components that report
in the collector's own terms.
-/

namespace KubeletCollector

inductive WireKind where
  | exchange
  | request
  | transport
  | timeout
  | connectTimeout
  | readTimeout
  | writeTimeout
  | poolTimeout
  | network
  | connect
  | read
  | write
  | close
  | protocol
  | localProtocol
  | remoteProtocol
  | proxy
  | unsupported
  | decoding
  | redirects
deriving DecidableEq, Repr

namespace WireKind

def all : List WireKind :=
  [.exchange, .request, .transport, .timeout, .connectTimeout, .readTimeout, .writeTimeout, .poolTimeout,
   .network, .connect, .read, .write, .close, .protocol, .localProtocol, .remoteProtocol, .proxy,
   .unsupported, .decoding, .redirects]

/-- The name that stands in for a failure without a text. -/
def name : WireKind → String
  | .exchange => "HTTPError"
  | .request => "RequestError"
  | .transport => "TransportError"
  | .timeout => "TimeoutException"
  | .connectTimeout => "ConnectTimeout"
  | .readTimeout => "ReadTimeout"
  | .writeTimeout => "WriteTimeout"
  | .poolTimeout => "PoolTimeout"
  | .network => "NetworkError"
  | .connect => "ConnectError"
  | .read => "ReadError"
  | .write => "WriteError"
  | .close => "CloseError"
  | .protocol => "ProtocolError"
  | .localProtocol => "LocalProtocolError"
  | .remoteProtocol => "RemoteProtocolError"
  | .proxy => "ProxyError"
  | .unsupported => "UnsupportedProtocol"
  | .decoding => "DecodingError"
  | .redirects => "TooManyRedirects"

def ofName? (s : String) : Option WireKind :=
  all.find? (·.name = s)

theorem ofName?_name (kind : WireKind) : ofName? kind.name = some kind := by
  cases kind <;> decide

end WireKind

inductive SystemKind where
  | general
  | notFound
  | permission
  | exists
  | notADirectory
  | isADirectory
  | interrupted
  | blocking
  | processLookup
  | childProcess
  | timeout
  | connection
  | brokenPipe
  | connectionAborted
  | connectionRefused
  | connectionReset
deriving DecidableEq, Repr

def SystemKind.ofNumber : Nat → SystemKind
  | 1 | 13 => .permission
  | 2 => .notFound
  | 3 => .processLookup
  | 4 => .interrupted
  | 10 => .childProcess
  | 11 | 114 | 115 => .blocking
  | 17 => .exists
  | 20 => .notADirectory
  | 21 => .isADirectory
  | 32 | 108 => .brokenPipe
  | 103 => .connectionAborted
  | 104 => .connectionReset
  | 110 => .timeout
  | 111 => .connectionRefused
  | _ => .general

inductive OwnKind where
  | general
  | listing
  | source
  | fetch
  | baseline
deriving DecidableEq, Repr

end KubeletCollector
