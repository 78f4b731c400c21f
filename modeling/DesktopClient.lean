import DesktopClient.Run
import DesktopClient.Notifications
import DesktopClient.Theorems.Notifications
import DesktopClient.PosixFd
import DesktopClient.Sentinel
import DesktopClient.TypeList
import DesktopClient.Nullable
import DesktopClient.Theorems.Nullable
import DesktopClient.Raii
import DesktopClient.Theorems.Raii
import DesktopClient.NetExtensionChecker
import DesktopClient.Singleton
import DesktopClient.Comparable
import DesktopClient.PosixMain
import DesktopClient.Msec
import DesktopClient.Theorems.RaiiOwners
