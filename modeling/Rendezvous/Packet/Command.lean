/-!
The commands of the protocol and their codes. Codes and commands correspond one to one: reading
the code of a command gives the command, and nothing else reads as it.
-/
namespace Rendezvous

inductive Command
  | initRequest
  | initReply
  | ertTestRequest
  | ertTestReply
  | stateUpdate
  | connectRequest
  | connectReply
  | connectPing
  | backupTestRequest
  | backupTestReply
  | addressCheckRequest
  | addressCheckReply
  | natifyRequest
  | reportRequest
  | reportReply
  | preInitRequest
  | preInitReply
  deriving DecidableEq, Repr

namespace Command

def code : Command → UInt8
  | initRequest => 0x00
  | initReply => 0x01
  | ertTestRequest => 0x02
  | ertTestReply => 0x03
  | stateUpdate => 0x04
  | connectRequest => 0x05
  | connectReply => 0x06
  | connectPing => 0x07
  | backupTestRequest => 0x08
  | backupTestReply => 0x09
  | addressCheckRequest => 0x0A
  | addressCheckReply => 0x0B
  | natifyRequest => 0x0C
  | reportRequest => 0x0D
  | reportReply => 0x0E
  | preInitRequest => 0x0F
  | preInitReply => 0x10

def ofCode? (code : UInt8) : Option Command :=
  match code with
  | 0x00 => some initRequest
  | 0x01 => some initReply
  | 0x02 => some ertTestRequest
  | 0x03 => some ertTestReply
  | 0x04 => some stateUpdate
  | 0x05 => some connectRequest
  | 0x06 => some connectReply
  | 0x07 => some connectPing
  | 0x08 => some backupTestRequest
  | 0x09 => some backupTestReply
  | 0x0A => some addressCheckRequest
  | 0x0B => some addressCheckReply
  | 0x0C => some natifyRequest
  | 0x0D => some reportRequest
  | 0x0E => some reportReply
  | 0x0F => some preInitRequest
  | 0x10 => some preInitReply
  | _ => none

/-- Answered without a session. -/
def isStateless : Command → Bool
  | addressCheckRequest | natifyRequest => true
  | _ => false

/-- Sent by servers; a client that sends one is not listened to. -/
def isFromServer : Command → Bool
  | initReply | ertTestRequest | connectRequest | backupTestReply | addressCheckReply
  | reportReply | preInitReply => true
  | _ => false

def name : Command → String
  | initRequest => "NN_INIT"
  | initReply => "NN_INITACK"
  | ertTestRequest => "NN_ERTTEST"
  | ertTestReply => "NN_ERTACK"
  | stateUpdate => "NN_STATEUPDATE"
  | connectRequest => "NN_CONNECT"
  | connectReply => "NN_CONNECT_ACK"
  | connectPing => "NN_CONNECT_PING"
  | backupTestRequest => "NN_BACKUP_TEST"
  | backupTestReply => "NN_BACKUP_ACK"
  | addressCheckRequest => "NN_ADDRESS_CHECK"
  | addressCheckReply => "NN_ADDRESS_REPLY"
  | natifyRequest => "NN_NATIFY_REQUEST"
  | reportRequest => "NN_REPORT"
  | reportReply => "NN_REPORT_ACK"
  | preInitRequest => "NN_PREINIT"
  | preInitReply => "NN_PREINIT_ACK"

@[simp] theorem ofCode?_code (command : Command) : ofCode? command.code = some command := by
  cases command <;> rfl

end Command

end Rendezvous
