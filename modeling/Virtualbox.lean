import Virtualbox.Go
import Virtualbox.CmdArgs
import Virtualbox.Text
import Virtualbox.PropMap
import Virtualbox.Uart
import Virtualbox.UartDecode
import Virtualbox.UartStrings
import Virtualbox.Storage
import Virtualbox.Nic
import Virtualbox.Machine
import Virtualbox.MachineList
import Virtualbox.ModifyVM
import Virtualbox.Listing
import Virtualbox.Dhcp
import Virtualbox.NatNet
import Virtualbox.GuestProperty
import Virtualbox.VBoxManage
import Virtualbox.Lifecycle
import Virtualbox.ExtraData
import Virtualbox.GuestPropertyStore
