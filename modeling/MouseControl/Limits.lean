/-! The numbers of the vendor protocol: report layout, opcodes, flash geometry and the ranges that a
request has to stay in. -/
namespace MouseControl

def reportId : UInt8 := 0x07
def packetLength : Nat := 72
def headerLength : Nat := 8
def regionLength : Nat := packetLength - headerLength
def writeFlag : UInt8 := 0x80
def readFlag : UInt8 := 0x00

namespace Opcode

def save : UInt8 := 0x0A
def dpiStep : UInt8 := 0x0F
def backlight : UInt8 := 0x11
def coreState : UInt8 := 0x1E
def coreSlot : UInt8 := 0x1F
def sledProfile : UInt8 := 0x2C
def sledEnable : UInt8 := 0x2D
def flashRead8 : UInt8 := 0x38
def flashReadDwords : UInt8 := 0x39
def flashWriteWords : UInt8 := 0x3A
def flashWriteDwords : UInt8 := 0x3B

def named : List (UInt8 × String) :=
  [(save, "SAVE"), (dpiStep, "DPI_STEP"), (backlight, "BACKLIGHT"), (coreState, "CORE_STATE"),
    (coreSlot, "CORE_SLOT"), (sledProfile, "SLED_PROFILE"), (sledEnable, "SLED_ENABLE"),
    (flashRead8, "FLASH_READ8"), (flashReadDwords, "FLASH_READ_DWORDS"),
    (flashWriteWords, "FLASH_WRITE_WORDS"), (flashWriteDwords, "FLASH_WRITE_DWORDS")]

def name (opcode : UInt8) : String :=
  (named.lookup opcode).getD "UNKNOWN"

end Opcode

def wordLength : Nat := 2
def dwordLength : Nat := 4
def flashDataOffset : Nat := 8
def flashDataLength : Nat := regionLength - flashDataOffset
def wordsPerPacket : Nat := flashDataLength / wordLength
def dwordsPerPacket : Nat := flashDataLength / dwordLength
def wordsPerRead : Nat := 4
def wordSpaceEnd : Nat := 0x10000
def dwordSpaceEnd : Nat := 0x100000000

def tableWords : Nat := 64
def tableLength : Nat := tableWords * wordLength

/-- The word after a calibration table that marks it complete. -/
def tableSignature : UInt16 := 0xA4A4

def backlightMax : UInt8 := 10
def coreSlotMax : UInt8 := 3
def dwordCountMax : UInt8 := 14
def dpiMin : UInt32 := 100
def dpiMax : UInt32 := 25600
def pollingRates : List UInt32 := [125, 250, 500, 1000]
def liftOffMin : UInt32 := 1
def liftOffMax : UInt32 := 5

def flashWarning : String :=
  "WARNING: This command writes directly to the mouse's flash memory. " ++
  "Requests are bounds-checked, but writing wrong data to the wrong address " ++
  "can leave the device unusable until it is re-flashed with vendor tools. " ++
  "Use at your own risk."

end MouseControl
